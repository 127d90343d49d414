import CallByName.Comment
import CallByName.Text.Utf8
import Mathlib.Data.List.Induction
import Mathlib.Tactic.SplitIfs

/-! Blanking out comments keeps the layout of a text. What a comment is, is said here without
reference to blanking: it starts at a semicolon outside of string literals and of other comments.
Every byte of it becomes a space, and all other bytes stay what they are and where they are. -/

namespace CallByName

namespace Text

def utf8Bytes (cs : List Char) : List UInt8 := cs.flatMap String.utf8EncodeChar

theorem utf8Bytes_append (as bs : List Char) :
    utf8Bytes (as ++ bs) = utf8Bytes as ++ utf8Bytes bs := List.flatMap_append

theorem utf8Bytes_singleton (c : Char) : utf8Bytes [c] = String.utf8EncodeChar c :=
  List.append_nil _

theorem length_utf8Bytes (cs : List Char) : (utf8Bytes cs).length = utf8Length cs := by
  induction cs with
  | nil => rfl
  | cons c cs ih =>
    rw [utf8Bytes, List.flatMap_cons, List.length_append, String.length_utf8EncodeChar, utf8Length]
    exact congrArg (c.utf8Size + ·) ih

theorem getElem?_utf8Bytes {before part : List Char} {o : Nat} (hle : utf8Length before ≤ o)
    (hlt : o < utf8Length before + utf8Length part) (after : List Char) :
    (utf8Bytes (before ++ part ++ after))[o]? = (utf8Bytes part)[o - utf8Length before]? := by
  have hbefore : (utf8Bytes before).length ≤ o := by rwa [length_utf8Bytes]
  have hpart : o - utf8Length before < (utf8Bytes part).length := by
    rw [length_utf8Bytes]
    omega
  rw [List.append_assoc, utf8Bytes_append, utf8Bytes_append, List.getElem?_append_right hbefore,
    length_utf8Bytes, List.getElem?_append_left hpart]

theorem exists_char {cs : List Char} {o : Nat} (h : o < utf8Length cs) :
    ∃ before c after, cs = before ++ c :: after ∧ utf8Length before ≤ o ∧
      o < utf8Length before + c.utf8Size := by
  induction cs generalizing o with
  | nil => cases h
  | cons c cs ih =>
    by_cases hc : o < c.utf8Size
    · exact ⟨[], c, cs, rfl, Nat.zero_le o, by rwa [utf8Length, Nat.zero_add]⟩
    · rw [utf8Length] at h
      have hrest : o - c.utf8Size < utf8Length cs := by omega
      obtain ⟨before, d, after, rfl, hle, hlt⟩ := ih hrest
      refine ⟨c :: before, d, after, rfl, ?_, ?_⟩
      · rw [utf8Length]
        omega
      · rw [utf8Length]
        omega

theorem le_of_mem_utf8EncodeChar {c : Char} (h : 127 < c.toNat) :
    ∀ b ∈ String.utf8EncodeChar c, 128 ≤ b.toNat := by
  have hcode : c.val.toNat = c.toNat := rfl
  simp only [String.utf8EncodeChar, hcode, if_neg (Nat.not_le.2 h)]
  split_ifs
  all_goals
    simp only [List.forall_mem_cons, UInt8.toNat_ofNat', List.not_mem_nil, false_implies,
      implies_true, and_true]
    omega

theorem eq_newline_of_mem {c : Char} (h : '\n'.toUInt8 ∈ String.utf8EncodeChar c) : c = '\n' := by
  have hbyte : '\n'.toUInt8.toNat = 10 := rfl
  by_cases hc : c.toNat ≤ 127
  · have hencoded : String.utf8EncodeChar c = [UInt8.ofNat c.toNat] := if_pos hc
    rw [hencoded, List.mem_singleton] at h
    rw [h, UInt8.toNat_ofNat', Nat.mod_eq_of_lt (by omega)] at hbyte
    exact Char.toNat_inj.1 hbyte
  · have habove := le_of_mem_utf8EncodeChar (Nat.lt_of_not_le hc) _ h
    omega

end Text

open Text (utf8Bytes utf8Length)

namespace Comment

inductive Quoted : List Char → Prop
  | nil : Quoted []
  | plain {cs : List Char} {c : Char} (h : Quoted cs) (hbackslash : c ≠ '\\') (hquote : c ≠ '"') :
      Quoted (cs ++ [c])
  | escaped {cs : List Char} (h : Quoted cs) (c : Char) : Quoted (cs ++ ['\\', c])

/-- A text at whose end no string literal and no comment is open. -/
inductive Closed : List Char → Prop
  | nil : Closed []
  | plain {cs : List Char} {c : Char} (h : Closed cs) (hcomment : c ≠ ';') (hquote : c ≠ '"') :
      Closed (cs ++ [c])
  | literal {cs body : List Char} (h : Closed cs) (hbody : Quoted body) :
      Closed (cs ++ '"' :: body ++ ['"'])
  | comment {cs body : List Char} (h : Closed cs) (hbody : '\n' ∉ body) :
      Closed (cs ++ ';' :: body ++ ['\n'])

/-- The byte of the text at this offset is one of a comment, which goes from its semicolon up to the
end of the line. -/
def Contains (text : List Char) (o : Nat) : Prop :=
  ∃ before body after, text = before ++ ';' :: body ++ after ∧ Closed before ∧ '\n' ∉ body ∧
    utf8Length before ≤ o ∧ o < utf8Length (before ++ ';' :: body)

namespace Region

def Ends : Region → List Char → Prop
  | code, cs => Closed cs
  | string, cs => ∃ before body, cs = before ++ '"' :: body ∧ Closed before ∧ Quoted body
  | escape, cs =>
    ∃ before body, cs = before ++ '"' :: body ++ ['\\'] ∧ Closed before ∧ Quoted body
  | comment, cs => ∃ before body, cs = before ++ ';' :: body ∧ Closed before ∧ '\n' ∉ body

variable {r : Region} {cs : List Char}

theorem after_append (r : Region) (cs ds : List Char) :
    r.after (cs ++ ds) = (r.after cs).after ds := List.foldl_append

theorem Ends.concat (h : r.Ends cs) (c : Char) : (r.next c).Ends (cs ++ [c]) := by
  cases r with
  | code =>
    rw [next]
    split
    · rename_i hc
      exact ⟨cs, [], by rw [hc], h, List.not_mem_nil⟩
    · rename_i hcomment
      split
      · rename_i hc
        exact ⟨cs, [], by rw [hc], h, .nil⟩
      · rename_i hquote
        exact .plain h hcomment hquote
  | string =>
    obtain ⟨before, body, rfl, hbefore, hbody⟩ := h
    rw [next]
    split
    · rename_i hc
      exact ⟨before, body, by rw [hc], hbefore, hbody⟩
    · rename_i hbackslash
      split
      · rename_i hc
        rw [hc]
        exact .literal hbefore hbody
      · rename_i hquote
        exact ⟨before, body ++ [c], by simp, hbefore, .plain hbody hbackslash hquote⟩
  | escape =>
    obtain ⟨before, body, rfl, hbefore, hbody⟩ := h
    exact ⟨before, body ++ ['\\', c], by simp, hbefore, .escaped hbody c⟩
  | comment =>
    obtain ⟨before, body, rfl, hbefore, hbody⟩ := h
    rw [next]
    split
    · rename_i hc
      rw [hc]
      exact .comment hbefore hbody
    · rename_i hc
      refine ⟨before, body ++ [c], by simp, hbefore, ?_⟩
      simp [hbody, Ne.symm hc]

theorem ends_after (cs : List Char) : (code.after cs).Ends cs := by
  -- By the last character: literals and comments are said to end there, not to start.
  induction cs using List.reverseRecOn with
  | nil => exact .nil
  | append_singleton cs c ih =>
    rw [after_append]
    exact ih.concat c

end Region

variable {cs body : List Char}

theorem after_comment (h : '\n' ∉ cs) : Region.comment.after cs = .comment := by
  induction cs with
  | nil => rfl
  | cons c cs ih =>
    rw [List.mem_cons, not_or] at h
    obtain ⟨hc, hcs⟩ := h
    change (Region.next .comment c).after cs = .comment
    rw [Region.next, if_neg (Ne.symm hc), ih hcs]

theorem after_quoted (h : Quoted body) : Region.string.after body = .string := by
  induction h with
  | nil => rfl
  | plain _ hbackslash hquote ih =>
    rw [Region.after_append, ih]
    change Region.next .string _ = .string
    rw [Region.next, if_neg hbackslash, if_neg hquote]
  | escaped _ c ih =>
    rw [Region.after_append, ih]
    rfl

theorem after_closed (h : Closed cs) : Region.code.after cs = .code := by
  induction h with
  | nil => rfl
  | plain _ hcomment hquote ih =>
    rw [Region.after_append, ih]
    change Region.next .code _ = .code
    rw [Region.next, if_neg hcomment, if_neg hquote]
  | @literal cs body _ hbody ih =>
    have hopen : Region.code.after ('"' :: body) = .string := after_quoted hbody
    rw [Region.after_append, Region.after_append, ih, hopen]
    rfl
  | @comment cs body _ hbody ih =>
    have hopen : Region.code.after (';' :: body) = .comment := after_comment hbody
    rw [Region.after_append, Region.after_append, ih, hopen]
    rfl

theorem after_eq_code_iff : Region.code.after cs = .code ↔ Closed cs := by
  constructor
  · intro h
    have hends := Region.ends_after cs
    rwa [h] at hends
  · exact after_closed

def Region.Erases (r : Region) (c : Char) : Prop := r = .comment ∧ c ≠ '\n' ∨ r = .code ∧ c = ';'

section

variable {r : Region} {c : Char}

theorem keep_of_erases (h : r.Erases c) : r.keep c = List.replicate c.utf8Size ' ' := by
  obtain ⟨rfl, hc⟩ | ⟨rfl, rfl⟩ := h
  · exact if_neg hc
  · rfl

theorem keep_of_not_erases (h : ¬ r.Erases c) : r.keep c = [c] := by
  cases r with
  | code =>
    have hc : c ≠ ';' := fun hc => h (.inr ⟨rfl, hc⟩)
    rw [Region.keep, if_neg hc]
  | comment =>
    have hc : c = '\n' := by_contra fun hc => h (.inl ⟨rfl, hc⟩)
    rw [Region.keep, if_pos hc]
  | _ => rfl

theorem utf8Bytes_spaces (n : Nat) :
    utf8Bytes (List.replicate n ' ') = List.replicate n ' '.toUInt8 := by
  induction n with
  | zero => rfl
  | succ n ih =>
    rw [List.replicate_succ, List.replicate_succ, ← ih]
    rfl

theorem utf8Length_spaces (n : Nat) : utf8Length (List.replicate n ' ') = n := by
  rw [← Text.length_utf8Bytes, utf8Bytes_spaces, List.length_replicate]

theorem utf8Length_keep (r : Region) (c : Char) : utf8Length (r.keep c) = c.utf8Size := by
  by_cases h : r.Erases c
  · rw [keep_of_erases h, utf8Length_spaces]
  · rw [keep_of_not_erases h]
    rfl

theorem utf8Length_blankFrom (r : Region) (cs : List Char) :
    utf8Length (blankFrom r cs) = utf8Length cs := by
  induction cs generalizing r with
  | nil => rw [blankFrom_nil]
  | cons c cs ih => rw [blankFrom, Text.utf8Length_append, utf8Length_keep, ih, utf8Length]

end

section

variable {before after : List Char} {c : Char} {o : Nat}

theorem Contains.exists_char {text : List Char} (h : Contains text o) :
    ∃ before c after, text = before ++ c :: after ∧ utf8Length before ≤ o ∧
      o < utf8Length before + c.utf8Size ∧ (Region.code.after before).Erases c := by
  obtain ⟨before, body, after, rfl, hbefore, hbody, hle, hlt⟩ := h
  rw [Text.utf8Length_append] at hlt
  obtain ⟨first, c, last, hsplit, hfirst, hc⟩ :=
    Text.exists_char (Nat.sub_lt_left_of_lt_add hle hlt)
  refine ⟨before ++ first, c, last ++ after, by simp [hsplit], ?_, ?_, ?_⟩
  · rw [Text.utf8Length_append]
    omega
  · rw [Text.utf8Length_append]
    omega
  · rw [Region.after_append, after_closed hbefore]
    cases first with
    | nil => exact .inr ⟨rfl, (List.cons.inj hsplit).1.symm⟩
    | cons d first =>
      rw [List.cons_append, List.cons.injEq] at hsplit
      obtain ⟨rfl, rfl⟩ := hsplit
      rw [List.mem_append, List.mem_cons, not_or, not_or] at hbody
      obtain ⟨hfirst, hc, -⟩ := hbody
      exact .inl ⟨after_comment hfirst, Ne.symm hc⟩

theorem contains_of_erases (h : (Region.code.after before).Erases c)
    (hle : utf8Length before ≤ o) (hlt : o < utf8Length before + c.utf8Size) :
    Contains (before ++ c :: after) o := by
  obtain ⟨hregion, hc⟩ | ⟨hregion, rfl⟩ := h
  · have hends := Region.ends_after before
    rw [hregion] at hends
    obtain ⟨start, body, rfl, hstart, hbody⟩ := hends
    refine ⟨start, body ++ [c], after, by simp, hstart, by simp [hbody, Ne.symm hc], ?_, ?_⟩
    · rw [Text.utf8Length_append] at hle
      omega
    · rw [← List.cons_append, ← List.append_assoc, Text.utf8Length_append]
      exact hlt
  · have hclosed := after_eq_code_iff.1 hregion
    refine ⟨before, [], after, by simp, hclosed, List.not_mem_nil, hle, ?_⟩
    rw [Text.utf8Length_append]
    exact hlt

theorem getElem?_blank (hle : utf8Length before ≤ o) (hlt : o < utf8Length before + c.utf8Size) :
    (utf8Bytes (blank (before ++ c :: after)))[o]? =
      (utf8Bytes ((Region.code.after before).keep c))[o - utf8Length before]? := by
  rw [blank, blankFrom_append, blankFrom, ← List.append_assoc,
    Text.getElem?_utf8Bytes (by rwa [utf8Length_blankFrom])
      (by rwa [utf8Length_blankFrom, utf8Length_keep]), utf8Length_blankFrom]

theorem getElem?_char (hle : utf8Length before ≤ o) (hlt : o < utf8Length before + c.utf8Size) :
    (utf8Bytes (before ++ c :: after))[o]? = (utf8Bytes [c])[o - utf8Length before]? := by
  rw [List.append_cons, Text.getElem?_utf8Bytes hle]
  exact hlt

theorem getElem?_blank_of_contains {text : List Char} (h : Contains text o) :
    (utf8Bytes (blank text))[o]? = some ' '.toUInt8 := by
  obtain ⟨before, c, after, rfl, hle, hlt, hc⟩ := h.exists_char
  rw [getElem?_blank hle hlt, keep_of_erases hc, utf8Bytes_spaces]
  exact List.getElem?_replicate_of_lt (Nat.sub_lt_left_of_lt_add hle hlt)

theorem getElem?_blank_of_not_contains {text : List Char} (h : ¬ Contains text o) :
    (utf8Bytes (blank text))[o]? = (utf8Bytes text)[o]? := by
  by_cases ho : o < utf8Length text
  · obtain ⟨before, c, after, rfl, hle, hlt⟩ := Text.exists_char ho
    have hc : ¬ (Region.code.after before).Erases c := fun hc => h (contains_of_erases hc hle hlt)
    rw [getElem?_blank hle hlt, keep_of_not_erases hc, getElem?_char hle hlt]
  · have hlength : utf8Length (blank text) = utf8Length text := utf8Length_blankFrom .code text
    have hend := Nat.le_of_not_lt ho
    rw [List.getElem?_eq_none (by rwa [Text.length_utf8Bytes, hlength]),
      List.getElem?_eq_none (by rwa [Text.length_utf8Bytes])]

theorem getElem?_ne_newline_of_contains {text : List Char} (h : Contains text o) :
    (utf8Bytes text)[o]? ≠ some '\n'.toUInt8 := by
  obtain ⟨before, c, after, rfl, hle, hlt, hc⟩ := h.exists_char
  rw [getElem?_char hle hlt, Text.utf8Bytes_singleton]
  intro hbyte
  obtain rfl := Text.eq_newline_of_mem (List.mem_of_getElem? hbyte)
  obtain ⟨-, hne⟩ | ⟨-, hsemicolon⟩ := hc
  · exact hne rfl
  · exact absurd hsemicolon (by decide)

end

def Region.blanked : Region → Region
  | comment => code
  | r => r

theorem blankFrom_spaces (n : Nat) :
    blankFrom .code (List.replicate n ' ') = List.replicate n ' ' := by
  induction n with
  | zero => rfl
  | succ n ih => exact congrArg (' ' :: ·) ih

theorem after_spaces (n : Nat) : Region.code.after (List.replicate n ' ') = .code := by
  induction n with
  | zero => rfl
  | succ n ih => exact ih

theorem Region.blanked_of_erases {r : Region} {c : Char} (h : r.Erases c) : r.blanked = .code := by
  obtain ⟨rfl, -⟩ | ⟨rfl, -⟩ := h
  · rfl
  · rfl

theorem Region.Erases.of_blanked {r : Region} {c : Char} (h : r.blanked.Erases c) :
    r.Erases c := by
  obtain ⟨hr, -⟩ | ⟨hr, rfl⟩ := h
  · cases r <;> cases hr
  · cases r with
    | code => exact .inr ⟨rfl, rfl⟩
    | comment => exact .inl ⟨rfl, by decide⟩
    | _ => cases hr

theorem blankFrom_keep (r : Region) (c : Char) : blankFrom r.blanked (r.keep c) = r.keep c := by
  by_cases h : r.Erases c
  · rw [keep_of_erases h, Region.blanked_of_erases h, blankFrom_spaces]
  · have hblanked : ¬ r.blanked.Erases c := fun hc => h hc.of_blanked
    rw [keep_of_not_erases h, blankFrom, blankFrom_nil, List.append_nil,
      keep_of_not_erases hblanked]

theorem after_keep (r : Region) (c : Char) : r.blanked.after (r.keep c) = (r.next c).blanked := by
  by_cases h : r.Erases c
  · rw [keep_of_erases h, Region.blanked_of_erases h, after_spaces]
    obtain ⟨rfl, hc⟩ | ⟨rfl, rfl⟩ := h
    · rw [Region.next, if_neg hc]
      rfl
    · rfl
  · rw [keep_of_not_erases h]
    change r.blanked.next c = (r.next c).blanked
    cases r with
    | code =>
      have hc : c ≠ ';' := fun hc => h (.inr ⟨rfl, hc⟩)
      change Region.code.next c = (Region.code.next c).blanked
      rw [Region.next, if_neg hc]
      split <;> rfl
    | string =>
      change Region.string.next c = (Region.string.next c).blanked
      rw [Region.next]
      split
      · rfl
      · split <;> rfl
    | escape => rfl
    | comment =>
      obtain rfl : c = '\n' := by_contra fun hc => h (.inl ⟨rfl, hc⟩)
      rfl

theorem blankFrom_blankFrom (r : Region) (cs : List Char) :
    blankFrom r.blanked (blankFrom r cs) = blankFrom r cs := by
  induction cs generalizing r with
  | nil => rw [blankFrom_nil, blankFrom_nil]
  | cons c cs ih => rw [blankFrom, blankFrom_append, blankFrom_keep, after_keep, ih]

end Comment

open Comment (blank)

/-- Blanking out comments keeps the layout of a text: its length in bytes and the places of its
newlines. Outside of comments every byte stays, in comments every byte becomes a space. To blank
comments out again changes nothing, and a longer text starts with what becomes of a shorter one. -/
theorem blank_keeps_layout (text more : List Char) :
    utf8Length (blank text) = utf8Length text ∧
      (∀ o : Nat, (utf8Bytes (blank text))[o]? = some '\n'.toUInt8 ↔
        (utf8Bytes text)[o]? = some '\n'.toUInt8) ∧
      (∀ o, ¬ Comment.Contains text o → (utf8Bytes (blank text))[o]? = (utf8Bytes text)[o]?) ∧
      (∀ o, Comment.Contains text o → (utf8Bytes (blank text))[o]? = some ' '.toUInt8) ∧
      blank (blank text) = blank text ∧ blank text <+: blank (text ++ more) := by
  refine ⟨Comment.utf8Length_blankFrom .code text, fun o => ?_,
    fun o => Comment.getElem?_blank_of_not_contains, fun o => Comment.getElem?_blank_of_contains,
    Comment.blankFrom_blankFrom .code text, ?_⟩
  · by_cases h : Comment.Contains text o
    · rw [Comment.getElem?_blank_of_contains h]
      exact iff_of_false (by decide) (Comment.getElem?_ne_newline_of_contains h)
    · rw [Comment.getElem?_blank_of_not_contains h]
  · rw [blank, blank, Comment.blankFrom_append]
    exact List.prefix_append _ _

theorem blank_keeps_layout_around_string :
    let text := "\"\\\";\";é\na".toList
    ¬ Comment.Contains text 3 ∧ (utf8Bytes (blank text))[3]? = some ';'.toUInt8 ∧
      Comment.Contains text 7 ∧ (utf8Bytes (blank text))[7]? = some ' '.toUInt8 := by
  intro text
  obtain ⟨-, -, hother, hcomment, -⟩ := blank_keeps_layout text []
  have hliteral : Comment.Closed "\"\\\";\"".toList :=
    .literal .nil (.plain (.escaped .nil '"') (by decide) (by decide))
  have hinside : Comment.Contains text 7 :=
    ⟨"\"\\\";\"".toList, ['é'], ['\n', 'a'], rfl, hliteral, by decide, by decide, by decide⟩
  have houtside : ¬ Comment.Contains text 3 := fun h => absurd (hcomment 3 h) (by decide)
  exact ⟨houtside, hother 3 houtside, hinside, hcomment 7 hinside⟩

end CallByName
