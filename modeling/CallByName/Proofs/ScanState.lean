import CallByName.Comment
import CallByName.Proofs.Recognition

/-! What the state of a scan says of the text read so far: where a fault lies, what the last
character was, and which region of the text has been reached, comments being blanked out. -/

namespace CallByName

open Comment (Region blankFrom)

def Phase.Fits (text : List Char) (around : List Enclosure) : Phase → Prop
  | .between => True
  | .atom start _ => ∃ c, text[start]? = some c ∧ (c = '#' ∨ isSymbolChar c = true)
  | .string _ => around.length ≤ 63
  | .escape _ => around.length ≤ 63 ∧ text.getLast? = some '\\'
  | .failed fault => ∃ c, text[fault.offset]? = some c ∧ Text.isSeparator c = false

def Phase.In : Phase → Region → Prop
  | .between, .code => True
  | .between, .comment => True
  | .atom _ _, .code => True
  | .string _, .string => True
  | .escape _, .escape => True
  | .failed _, _ => True
  | _, _ => False

theorem in_of_failed (fault : Fault) (r : Region) : (Phase.failed fault).In r := by
  cases r <;> trivial

namespace Scan

variable {o start : Nat} {data : List (Datum × Nat)} {around : List Enclosure} {s : Scan} {c : Char}
  {text chars : List Char}

theorem offset_read (s : Scan) (c : Char) : (s.read c).offset = s.offset + 1 := rfl

theorem offset_feed (s : Scan) (text : List Char) :
    (s.feed text).offset = s.offset + text.length := by
  induction text generalizing s with
  | nil => rfl
  | cons c text ih =>
    rw [feed_cons, ih, offset_read, List.length_cons]
    omega

theorem offset_initial_feed (text : List Char) : (initial.feed text).offset = text.length := by
  rw [offset_feed]
  exact Nat.zero_add _

theorem read_atom_more (hc : isSymbolChar c = true) :
    (Scan.mk o data around (.atom start chars)).read c =
      ⟨o + 1, data, around, .atom start (c :: chars)⟩ := by
  simp [read, react, hc]

theorem getElem?_append_of_eq_some {i : Nat} {more : List Char} (h : text[i]? = some c) :
    (text ++ more)[i]? = some c := by
  rw [List.getElem?_append_left (List.getElem?_eq_some_iff.1 h).1, h]

theorem fits_read_between (h : o = text.length) :
    Phase.Fits (text ++ [c]) ((Scan.mk o data around .between).read c).around
      ((Scan.mk o data around .between).read c).phase := by
  have hlast : (text ++ [c])[o]? = some c := by rw [h, List.getElem?_concat_length]
  have hstart := starts_read o data around c
  generalize (Scan.mk o data around .between).read c = s at hstart
  cases hstart with
  | separator => trivial
  | quote => trivial
  | opening => trivial
  | string hroom => exact hroom
  | atom _ hc => exact ⟨c, hlast, hc⟩
  | closing => trivial
  | failed hseparator => exact ⟨c, hlast, hseparator⟩

theorem fits_read (hoffset : s.offset = text.length) (h : s.phase.Fits text s.around) (c : Char) :
    (s.read c).phase.Fits (text ++ [c]) (s.read c).around := by
  obtain ⟨o, data, around, phase⟩ := s
  cases phase with
  | between => exact fits_read_between hoffset
  | atom start chars =>
    obtain ⟨x, hx, hatom⟩ := h
    by_cases hc : isSymbolChar c = true
    · rw [read_atom_more hc]
      exact ⟨x, getElem?_append_of_eq_some hx, hatom⟩
    · rw [Bool.not_eq_true] at hc
      cases hd : Datum.ofAtom? chars.reverse with
      | none =>
        rw [read_atom_none hd hc]
        exact ⟨x, getElem?_append_of_eq_some hx, (Grammar.ne_of_startsAtom hatom).1⟩
      | some d =>
        rw [read_atom_some hd hc]
        exact fits_read_between hoffset
  | string chars =>
    by_cases hquote : c = '"'
    · subst hquote
      trivial
    by_cases hbackslash : c = '\\'
    · subst hbackslash
      exact ⟨h, List.getLast?_concat⟩
    · rw [read_string_plain hquote hbackslash]
      exact h
  | escape chars =>
    obtain ⟨hroom, hlast⟩ := h
    cases hc : Text.Quoted.unescape? c with
    | none =>
      rw [read_escape_none hc]
      refine ⟨'\\', getElem?_append_of_eq_some ?_, by decide⟩
      rw [← hlast, List.getLast?_eq_getElem?, ← hoffset]
    | some x =>
      rw [read_escape_some hc]
      exact hroom
  | failed fault =>
    obtain ⟨x, hx, hseparator⟩ := h
    rw [read_of_failed rfl]
    exact ⟨x, getElem?_append_of_eq_some hx, hseparator⟩

theorem fits_feed_of_fits (hoffset : s.offset = text.length) (h : s.phase.Fits text s.around)
    (more : List Char) : (s.feed more).phase.Fits (text ++ more) (s.feed more).around := by
  induction more generalizing s text with
  | nil =>
    rw [List.append_nil]
    exact h
  | cons c more ih =>
    rw [feed_cons, List.append_cons]
    apply ih
    · rw [offset_read, hoffset, List.length_append, List.length_singleton]
    · exact fits_read hoffset h c

theorem fits_feed (text : List Char) :
    (initial.feed text).phase.Fits text (initial.feed text).around := by
  have hinitial : initial.phase.Fits [] initial.around := trivial
  exact fits_feed_of_fits rfl hinitial text

inductive ReadsCode (c : Char) : Phase → Prop
  | failed (fault : Fault) : ReadsCode c (.failed fault)
  | string (h : c = '"') : ReadsCode c (.string [])
  | between (h : c ≠ '"') : ReadsCode c .between
  | atom (h : c = '#' ∨ isSymbolChar c = true) (start : Nat) (chars : List Char) :
      ReadsCode c (.atom start chars)

theorem phase_read_between (o : Nat) (data : List (Datum × Nat)) (around : List Enclosure)
    (c : Char) : ReadsCode c ((Scan.mk o data around .between).read c).phase := by
  have hstart := starts_read o data around c
  generalize (Scan.mk o data around .between).read c = s at hstart
  cases hstart with
  | separator h =>
    refine .between ?_
    rintro rfl
    exact absurd h (by decide)
  | quote => exact .between (by decide)
  | opening => exact .between (by decide)
  | string => exact .string rfl
  | atom _ hc => exact .atom hc _ _
  | closing => exact .between (by decide)
  | failed => exact .failed _

theorem phase_read_code (h : s.phase.In .code) (c : Char) : ReadsCode c (s.read c).phase := by
  obtain ⟨o, data, around, phase⟩ := s
  cases phase with
  | between => exact phase_read_between o data around c
  | atom start chars =>
    by_cases hc : isSymbolChar c = true
    · rw [read_atom_more hc]
      exact .atom (.inr hc) _ _
    · rw [Bool.not_eq_true] at hc
      cases hd : Datum.ofAtom? chars.reverse with
      | none =>
        rw [read_atom_none hd hc]
        exact .failed _
      | some d =>
        rw [read_atom_some hd hc]
        exact phase_read_between _ _ _ c
  | failed fault =>
    rw [read_of_failed rfl]
    exact .failed fault
  | _ => exact h.elim

theorem phase_read_separator (h : s.phase.In .code) (hc : Text.isSeparator c = true) :
    (s.read c).phase = .between ∨ ∃ fault, (s.read c).phase = .failed fault := by
  have hphase := phase_read_code h c
  generalize (s.read c).phase = phase at hphase
  cases hphase with
  | failed fault => exact .inr ⟨fault, rfl⟩
  | string hstring =>
    rw [hstring] at hc
    cases hc
  | between => exact .inl rfl
  | atom hatom => exact absurd hc (Bool.eq_false_iff.1 (Grammar.ne_of_startsAtom hatom).1)

theorem phase_read_newline (s : Scan) : (s.read '\n').phase = .between ∨
    (∃ chars, (s.read '\n').phase = .string chars) ∨
    ∃ fault, (s.read '\n').phase = .failed fault := by
  have hcode (h : s.phase.In .code) := phase_read_separator h (c := '\n') (by decide)
  obtain ⟨o, data, around, phase⟩ := s
  cases phase with
  | between => exact (hcode trivial).imp_right .inr
  | atom start chars => exact (hcode trivial).imp_right .inr
  | string chars =>
    rw [read_string_plain (by decide) (by decide)]
    exact .inr (.inl ⟨_, rfl⟩)
  | escape chars => exact .inr (.inr ⟨_, read_escape_none rfl chars⟩)
  | failed fault => exact .inr (.inr ⟨fault, read_of_failed rfl _⟩)

theorem in_read_code (h : s.phase.In .code) (hc : c ≠ ';') :
    (s.read c).phase.In (Region.next .code c) := by
  have hphase := phase_read_code h c
  generalize (s.read c).phase = phase at hphase
  rw [Region.next, if_neg hc]
  cases hphase with
  | failed fault => exact in_of_failed fault _
  | string hstring =>
    rw [if_pos hstring]
    trivial
  | between hstring =>
    rw [if_neg hstring]
    trivial
  | atom hatom =>
    rw [if_neg (Grammar.ne_of_startsAtom hatom).2.2.2.1]
    trivial

theorem in_read_space (h : s.phase.In .code) : (s.read ' ').phase.In .comment := by
  obtain h | ⟨fault, h⟩ := phase_read_separator h (c := ' ') (by decide)
  · rw [h]
    trivial
  · rw [h]
    exact in_of_failed fault _

theorem in_code_of_in_comment {phase : Phase} (h : phase.In .comment) : phase.In .code := by
  cases phase with
  | between => trivial
  | failed => trivial
  | _ => exact h.elim

theorem in_feed_spaces (h : s.phase.In .comment) (n : Nat) :
    (s.feed (List.replicate n ' ')).phase.In .comment := by
  induction n generalizing s with
  | zero => exact h
  | succ n ih => exact ih (in_read_space (in_code_of_in_comment h))

theorem in_feed_keep {r : Region} (h : s.phase.In r) (c : Char) :
    (s.feed (r.keep c)).phase.In (r.next c) := by
  cases r with
  | code =>
    rw [Region.keep]
    split
    · rename_i hc
      subst hc
      exact in_read_space h
    · rename_i hc
      exact in_read_code h hc
  | comment =>
    rw [Region.keep, Region.next]
    split
    · rename_i hc
      subst hc
      exact in_read_code (in_code_of_in_comment h) (by decide)
    · exact in_feed_spaces h _
  | string =>
    obtain ⟨o, data, around, phase⟩ := s
    cases phase with
    | string chars =>
      change ((Scan.mk o data around (.string chars)).read c).phase.In _
      rw [Region.next]
      split
      · rename_i hbackslash
        subst hbackslash
        trivial
      · rename_i hbackslash
        split
        · rename_i hquote
          subst hquote
          trivial
        · rename_i hquote
          rw [read_string_plain hquote hbackslash]
          trivial
    | failed fault => exact in_of_failed fault _
    | _ => exact h.elim
  | escape =>
    obtain ⟨o, data, around, phase⟩ := s
    cases phase with
    | escape chars =>
      change ((Scan.mk o data around (.escape chars)).read c).phase.In .string
      cases hc : Text.Quoted.unescape? c with
      | none =>
        rw [read_escape_none hc]
        trivial
      | some x =>
        rw [read_escape_some hc]
        trivial
    | failed fault => exact in_of_failed fault _
    | _ => exact h.elim

theorem in_feed_blankFrom {r : Region} (h : s.phase.In r) (text : List Char) :
    (s.feed (blankFrom r text)).phase.In (r.after text) := by
  induction text generalizing s r with
  | nil =>
    rw [Comment.blankFrom_nil]
    exact h
  | cons c text ih =>
    rw [blankFrom, feed_append]
    exact ih (in_feed_keep h c)

end Scan

end CallByName
