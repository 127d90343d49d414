import CallByName.Proofs.WellFormed
import Mathlib.Data.List.Forall2

/-! The texts of data. What stands between parentheses, with single spaces, is a list of what its
parts spell, so the text of a datum spells that datum, if its symbols are spelled as such and
nothing in it lies too deep. -/

namespace CallByName

mutual

/-- No list lies deeper than level 62 and no atom deeper than level 63, where the datum itself lies
at the given level. -/
def Datum.FitsAt (level : Nat) : Datum → Prop
  | .list items => level ≤ 62 ∧ Datum.AllFitAt (level + 1) items
  | .num _ | .bool _ | .str _ | .sym _ => level ≤ 63

def Datum.AllFitAt (level : Nat) : List Datum → Prop
  | [] => True
  | d :: ds => d.FitsAt level ∧ Datum.AllFitAt level ds

end

theorem Datum.allFitAt_iff {ds : List Datum} {level : Nat} :
    AllFitAt level ds ↔ ∀ d ∈ ds, d.FitsAt level := by
  induction ds with
  | nil => exact iff_of_true trivial (List.forall_mem_nil _)
  | cons d ds ih => rw [AllFitAt, List.forall_mem_cons, ih]

theorem Datum.FitsAt.level_le {d : Datum} {level : Nat} (h : d.FitsAt level) : level ≤ 63 := by
  cases d with
  | list items => exact Nat.le_succ_of_le h.1
  | _ => exact h

namespace Grammar

/-- The text is a datum at a depth, before anything that cannot go on with an atom. -/
def Spells (depth : Nat) (text : String) (d : Datum) : Prop :=
  ∀ rest, EndsAtom rest → IsDatum depth (text.toList ++ rest) d rest

variable {depth : Nat} {d : Datum}

theorem spells_atom {text : String} (h : Atom text.toList d) (hdepth : depth ≤ 63) :
    Spells depth text d := fun _ hrest => .atom hdepth h hrest

theorem atom_number (n : Number) : Atom (Number.text n).toList (.num n) := by
  have hdigits (k : Nat) : ∀ c ∈ Nat.toDigits 10 k, c.isDigit = true := by
    intro c hc
    exact Nat.isDigit_of_mem_toDigits (by decide) (by decide) hc
  have hvalue : Number.decimalValue (Nat.toDigits 10 n.toInt.natAbs) = n.toInt.natAbs :=
    Nat.ofDigitChars_ten_toDigits
  rw [Number.text, String.toList_ofList, Number.decimal]
  split
  · refine .negative Nat.toDigits_ne_nil (hdigits _) ?_
    rw [hvalue]
    omega
  · refine .decimal Nat.toDigits_ne_nil (hdigits _) ?_
    rw [hvalue]
    omega

theorem atom_bool (b : Bool) : Atom (boolText b).toList (.bool b) := by
  cases b with
  | true => exact .yes
  | false => exact .no

theorem atom_symbol {x : String} (h : isSymbol x.toList = true) : Atom x.toList (.sym x) := by
  obtain ⟨hne, hstart, hchars⟩ := isSymbol_eq_true_iff.1 h
  have hatom := Atom.symbol hne hstart hchars
  rwa [String.ofList_toList] at hatom

theorem literal_encode (chars rest : List Char) :
    Literal (chars.flatMap Text.Quoted.escape ++ '"' :: rest) chars rest := by
  induction chars with
  | nil => exact .close
  | cons c chars ih =>
    rw [List.flatMap_cons, List.append_assoc]
    obtain ⟨hplain, hquote, hbackslash⟩ | ⟨e, hescaped, he⟩ := Text.Quoted.escape_cases c
    · rw [hplain]
      exact .plain hquote hbackslash ih
    · rw [hescaped]
      exact .escaped (mem_escapes_iff.2 he) ih

theorem spells_string (s : String) (hdepth : depth ≤ 63) :
    Spells depth (Text.Quoted.text s) (.str s) := by
  intro rest _
  have h := IsDatum.string hdepth (literal_encode s.toList rest)
  rw [String.ofList_toList] at h
  simpa [Text.Quoted.text, Text.Quoted.encode] using h

theorem blanks_nil : Blanks [] := List.forall_mem_nil _

theorem spells_quote {text : String} (h : Spells (depth + 1) text d) (hdepth : depth ≤ 63) :
    Spells depth ("'" ++ text) (.list [.sym "quote", d]) := by
  intro rest hrest
  have hquote := IsDatum.quote hdepth blanks_nil (h rest hrest)
  rw [String.toList_append]
  exact hquote

theorem endsAtom_cons {c : Char} (hc : isSymbolChar c = false) (rest : List Char) :
    EndsAtom (c :: rest) := by
  intro x hx
  cases hx
  exact hc

theorem AreData.space {text rest : List Char} {ds : List Datum}
    (h : AreData depth text (d :: ds) rest) : AreData depth (' ' :: text) (d :: ds) rest := by
  cases h with
  | cons hblanks hd hds => exact .cons (blanks_cons.2 ⟨by decide, hblanks⟩) hd hds

theorem areData_intercalate {texts : List String} {ds : List Datum} {rest : List Char}
    (h : List.Forall₂ (Spells depth) texts ds) (hrest : EndsAtom rest) :
    AreData depth ((" ".intercalate texts).toList ++ rest) ds rest := by
  induction h with
  | nil => exact .nil
  | @cons text d texts ds hd hds ih =>
    cases hds with
    | nil =>
      have hlast := AreData.cons blanks_nil (hd rest hrest) .nil
      rw [String.intercalate_singleton]
      exact hlast
    | cons =>
      have hspace := endsAtom_cons (c := ' ') (by decide)
      have hfirst := AreData.cons blanks_nil (hd _ (hspace _)) ih.space
      rw [String.intercalate_cons_cons, String.toList_append, String.toList_append,
        List.append_assoc, List.append_assoc]
      exact hfirst

theorem spells_list {texts : List String} {ds : List Datum}
    (h : List.Forall₂ (Spells (depth + 1)) texts ds) (hdepth : depth ≤ 62) :
    Spells depth ("(" ++ " ".intercalate texts ++ ")") (.list ds) := by
  intro rest _
  have hitems := areData_intercalate h (endsAtom_cons (c := ')') (by decide) rest)
  have hlist := IsDatum.list hdepth hitems blanks_nil
  rw [String.toList_append, String.toList_append, List.append_assoc, List.append_assoc]
  exact hlist

theorem isProgram_of_spells {text : String} (h : Spells 0 text d) : IsProgram text.toList [d] := by
  have hend : EndsAtom [] := nofun
  have hd := h [] hend
  rw [List.append_nil] at hd
  exact ⟨[], blanks_nil, .cons blanks_nil hd .nil⟩

end Grammar

open Grammar (Spells)

mutual

theorem Datum.spells_text : (d : Datum) → {level : Nat} → d.WellSpelled → d.FitsAt level →
    Spells level d.text d
  | .num n, _, _, hlevel => Grammar.spells_atom (Grammar.atom_number n) hlevel
  | .bool b, _, _, hlevel => Grammar.spells_atom (Grammar.atom_bool b) hlevel
  | .str s, _, _, hlevel => Grammar.spells_string s hlevel
  | .sym _, _, hspelled, hlevel => Grammar.spells_atom (Grammar.atom_symbol hspelled) hlevel
  | .list ds, _, hspelled, ⟨hlevel, hfit⟩ =>
    Grammar.spells_list (spells_texts ds hspelled hfit) hlevel

theorem Datum.spells_texts : (ds : List Datum) → {level : Nat} → AllWellSpelled ds →
    AllFitAt level ds → List.Forall₂ (Spells level) (texts ds) ds
  | [], _, _, _ => .nil
  | d :: ds, _, ⟨hd, hds⟩, ⟨hfits, hfit⟩ =>
    .cons (spells_text d hd hfits) (spells_texts ds hds hfit)

end

namespace Scan

open Comment (Region blankFrom)

theorem exists_fault_read_semicolon {s : Scan} (h : s.phase.In .code) :
    ∃ fault, (s.read ';').phase = .failed fault := by
  have hsymbol : isSymbolChar ';' = false := by decide
  have hbetween (o : Nat) (data : List (Datum × Nat)) (around : List Enclosure) :
      ∃ fault, ((Scan.mk o data around .between).read ';').phase = .failed fault := by
    have hstart := starts_read o data around ';'
    generalize (Scan.mk o data around .between).read ';' = s at hstart
    generalize hc : ';' = c at hstart
    cases hstart with
    | separator hseparator => exact absurd (hc ▸ hseparator) (by decide)
    | atom _ hatom => exact absurd (hc ▸ hatom) (by decide)
    | failed => exact ⟨_, rfl⟩
    | _ => exact absurd hc (by decide)
  obtain ⟨o, data, around, phase⟩ := s
  cases phase with
  | between => exact hbetween o data around
  | atom start chars =>
    cases hd : Datum.ofAtom? chars.reverse with
    | none => exact ⟨_, read_atom_none hd hsymbol⟩
    | some d =>
      rw [read_atom_some hd hsymbol]
      exact hbetween _ _ _
  | failed fault => exact ⟨fault, read_of_failed rfl _⟩
  | _ => exact h.elim

theorem blankFrom_of_fault?_eq_none {s : Scan} {r : Region} (hr : r ≠ .comment)
    (hphase : s.phase.In r) {text : List Char} (h : (s.feed text).finish.fault? = none) :
    blankFrom r text = text := by
  induction text generalizing s r with
  | nil => exact Comment.blankFrom_nil r
  | cons c text ih =>
    rw [feed_cons] at h
    have hsemicolon : r = .code → c ≠ ';' := by
      rintro rfl rfl
      obtain ⟨fault, hfault⟩ := exists_fault_read_semicolon hphase
      rw [fault?_finish_feed_of_failed hfault] at h
      cases h
    have hkeep : r.keep c = [c] := by
      cases r with
      | code => rw [Region.keep, if_neg (hsemicolon rfl)]
      | comment => exact absurd rfl hr
      | string => rfl
      | escape => rfl
    have hnext : r.next c ≠ .comment := by
      cases r with
      | code =>
        rw [Region.next, if_neg (hsemicolon rfl)]
        split <;> decide
      | comment => exact absurd rfl hr
      | string =>
        rw [Region.next]
        split
        · decide
        · split <;> decide
      | escape => exact (by decide : Region.string ≠ .comment)
    have hread := in_feed_keep hphase c
    rw [hkeep] at hread
    rw [blankFrom, hkeep, ih hnext hread h]
    rfl

end Scan

theorem readable_of_readAll {source : String} {ds : List Datum}
    (h : Datum.readAll source.toList = .ok ds) (comments : Bool) :
    readable comments source = source.toList := by
  cases comments with
  | false => rfl
  | true =>
    obtain ⟨hfault, -⟩ := readAll_eq_ok_iff_accepts.1 h
    have hcode : Scan.initial.phase.In .code := trivial
    exact Scan.blankFrom_of_fault?_eq_none (by decide) hcode hfault

theorem readAll_of_spells {text : String} {d : Datum} (h : Spells 0 text d) (comments : Bool) :
    Datum.readAll (readable comments text) = .ok [d] := by
  have hread := readAll_eq_ok_iff_isProgram.2 (Grammar.isProgram_of_spells h)
  rwa [readable_of_readAll hread comments]

end CallByName
