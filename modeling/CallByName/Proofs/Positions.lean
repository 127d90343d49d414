import CallByName.Proofs.Completion
import CallByName.Proofs.Conversion
import CallByName.Proofs.Layout

/-! The positions that reports name. They are counted in the text that is read, where comments are
blanked out byte by byte: there are as many bytes before a position as in the source, but more
characters if a comment before it has one of several bytes. -/

namespace CallByName

open Comment (Region blankFrom)
open Text (utf8Length)

namespace Comment

variable {r : Region} {c x : Char} {cs : List Char} {n : Nat}

/-- The characters of comments, without the semicolons they start with. -/
def commented : Region → List Char → List Char
  | _, [] => []
  | r, c :: cs =>
    if r = .comment ∧ c ≠ '\n' then c :: commented (r.next c) cs else commented (r.next c) cs

theorem keep_comment (hc : c ≠ '\n') : Region.comment.keep c = List.replicate c.utf8Size ' ' :=
  keep_of_erases (.inl ⟨rfl, hc⟩)

theorem keep_outside (h : ¬ (r = .comment ∧ c ≠ '\n')) :
    r.keep c = [c] ∨ c = ';' ∧ r.keep c = [' '] := by
  by_cases hc : r.Erases c
  · obtain rfl : c = ';' := (hc.resolve_left h).2
    exact .inr ⟨rfl, keep_of_erases hc⟩
  · exact .inl (keep_of_not_erases hc)

theorem length_blankFrom (r : Region) (cs : List Char) :
    (blankFrom r cs).length + (commented r cs).length =
      cs.length + utf8Length (commented r cs) := by
  induction cs generalizing r with
  | nil =>
    rw [blankFrom_nil, commented, utf8Length]
    rfl
  | cons c cs ih =>
    have ih := ih (r.next c)
    rw [blankFrom, commented, List.length_append, List.length_cons]
    split
    · rename_i h
      rw [h.1] at ih ⊢
      rw [keep_comment h.2, List.length_replicate, List.length_cons, utf8Length]
      omega
    · rename_i h
      have hlength : (r.keep c).length = 1 := by
        rcases keep_outside h with hkeep | ⟨-, hkeep⟩
        · rw [hkeep, List.length_singleton]
        · rw [hkeep, List.length_singleton]
      omega

theorem mem_of_mem_commented (h : c ∈ commented r cs) : c ∈ cs := by
  induction cs generalizing r with
  | nil => exact h
  | cons x cs ih =>
    rw [commented] at h
    split at h
    · rcases List.mem_cons.1 h with rfl | h
      · exact .head _
      · exact .tail _ (ih h)
    · exact .tail _ (ih h)

theorem length_blankFrom_of_narrow (h : ∀ c ∈ commented r cs, c.utf8Size = 1) :
    (blankFrom r cs).length = cs.length := by
  have hbytes := Text.utf8Length_eq_length_iff.2 h
  have hlength := length_blankFrom r cs
  omega

theorem eq_of_getElem?_keep (h : (r.keep x)[n]? = some c) (hc : Text.isSeparator c = false) :
    c = x ∧ n = 0 ∧ r ≠ .comment := by
  have hspace : c ≠ ' ' := by
    rintro rfl
    cases hc
  by_cases hx : r = .comment ∧ x ≠ '\n'
  · rw [hx.1, keep_comment hx.2] at h
    exact absurd (List.eq_of_mem_replicate (List.mem_of_getElem? h)) hspace
  · rcases keep_outside hx with hkeep | ⟨-, hkeep⟩
    · rw [hkeep, List.getElem?_singleton] at h
      obtain ⟨hn, heq⟩ := Option.ite_none_right_eq_some.1 h
      obtain rfl : x = c := Option.some.inj heq
      refine ⟨rfl, hn, fun hr => hx ⟨hr, ?_⟩⟩
      rintro rfl
      cases hc
    · rw [hkeep, List.getElem?_singleton] at h
      obtain ⟨-, heq⟩ := Option.ite_none_right_eq_some.1 h
      exact absurd (Option.some.inj heq).symm hspace

theorem exists_of_getElem?_blankFrom (h : (blankFrom r cs)[n]? = some c)
    (hc : Text.isSeparator c = false) :
    ∃ before after, cs = before ++ c :: after ∧ r.after before ≠ .comment ∧
      (blankFrom r before).length = n := by
  induction cs generalizing r n with
  | nil =>
    rw [blankFrom_nil] at h
    cases h
  | cons x cs ih =>
    rw [blankFrom] at h
    by_cases hn : n < (r.keep x).length
    · rw [List.getElem?_append_left hn] at h
      obtain ⟨rfl, rfl, hr⟩ := eq_of_getElem?_keep h hc
      refine ⟨[], cs, rfl, hr, ?_⟩
      rw [blankFrom_nil, List.length_nil]
    · have hle := Nat.le_of_not_lt hn
      rw [List.getElem?_append_right hle] at h
      obtain ⟨before, after, rfl, hr, hlength⟩ := ih h
      refine ⟨x :: before, after, rfl, hr, ?_⟩
      rw [blankFrom, List.length_append, hlength, Nat.add_sub_cancel' hle]

end Comment

def clash : List Char → List Char → Bool
  | a :: as, b :: bs => a != b || clash as bs
  | _, _ => false

theorem clash_append {as bs : List Char} (h : clash as bs = true) (cs : List Char) :
    clash (as ++ cs) bs = true := by
  fun_induction clash as bs with
  | case1 a as b bs ih =>
    rw [Bool.or_eq_true] at h
    rw [List.cons_append, clash, Bool.or_eq_true]
    exact h.imp_right ih
  | case2 => cases h

theorem ne_append_of_clash {as bs : List Char} (h : clash as bs = true) (cs : List Char) :
    as ≠ bs ++ cs := by
  fun_induction clash as bs with
  | case1 a as b bs ih =>
    rw [Bool.or_eq_true, bne_iff_ne] at h
    rw [List.cons_append, Ne, List.cons.injEq, not_and_or]
    exact h.imp_right ih
  | case2 => cases h

theorem clash_ofList {as bs : List Char} (h : clash as bs = true) :
    clash (String.ofList as).toList (String.ofList bs).toList = true := by
  rwa [String.toList_ofList, String.toList_ofList]

namespace SyntaxError

def pointing : String := "Expected character at position "

def PointsTo (e : SyntaxError) (n : Nat) : Prop := e.message = pointing ++ Nat.repr n

def Shows (e : SyntaxError) (c : Char) : Prop :=
  ∃ found, e.found = some found ∧ found.toList.head? = some c

def PointsNowhere (message : String) : Prop := clash message.toList pointing.toList = true

theorem PointsNowhere.append {start : String} (h : PointsNowhere start) (s : String) :
    PointsNowhere (start ++ s) := by
  rw [PointsNowhere, String.toList_append]
  exact clash_append h s.toList

theorem PointsNowhere.not_pointsTo {message : String} (h : PointsNowhere message)
    {e : SyntaxError} (he : e.message = message) (n : Nat) : ¬ e.PointsTo n := by
  intro hn
  refine ne_append_of_clash h (Nat.repr n).toList ?_
  rw [← he, hn, String.toList_append]

end SyntaxError

open SyntaxError (PointsNowhere)

theorem Malformation.pointsNowhere (m : Malformation) : PointsNowhere m.message := by
  cases m with
  -- It starts with the same word, but a parenthesis comes next.
  | shape k => cases k <;> exact Eq.refl true
  | emptyBody | noBindings | misplacedDefinition | emptyApplication =>
    exact clash_ofList (by decide)
  | notIdentifier _ | badBinding _ => exact .append (clash_ofList (by decide)) _
  | reservedBound _ | primitiveBound _ | duplicate _ | reservedVariable _ =>
    exact .append (.append (clash_ofList (by decide)) _) _

namespace Fault

variable {fault : Fault} {text : List Char} {n : Nat}

theorem report_of_not_blank (hdeep : fault.cause ≠ .tooDeep)
    (hblank : (text.drop fault.offset).all Text.isBlank = false) :
    fault.report text = .inContext .invalid
      (if fault.cause = .unclosed then SyntaxError.pointing ++ Nat.repr fault.offset
        else "Invalid syntax near '" ++ String.ofList ((text.drop fault.offset).take 10) ++ "'")
      text fault.offset (some (String.ofList ((text.drop fault.offset).take 10))) := by
  obtain ⟨cause, offset⟩ := fault
  cases cause with
  | tooDeep => exact absurd rfl hdeep
  | _ =>
    simp only [report, hblank]
    rfl

theorem offset_of_pointsTo (h : (fault.report text).PointsTo n) :
    fault.offset = n ∧ (text.drop n).all Text.isBlank = false ∧
      (fault.report text).found = some (String.ofList ((text.drop n).take 10)) := by
  by_cases hdeep : fault.cause = .tooDeep
  · rw [report, if_pos hdeep] at h
    have hnesting : PointsNowhere ("Expression too deeply nested (max depth: " ++
        Nat.repr maxNesting ++ ")") := .append (.append (clash_ofList (by decide)) _) _
    exact absurd h (hnesting.not_pointsTo rfl n)
  cases hblank : (text.drop fault.offset).all Text.isBlank with
  | true =>
    rw [report, if_neg hdeep, if_pos hblank] at h
    have hend : PointsNowhere "Unexpected end of input" := clash_ofList (by decide)
    exact absurd h (hend.not_pointsTo rfl n)
  | false =>
    rw [report_of_not_blank hdeep hblank] at h ⊢
    by_cases hcause : fault.cause = .unclosed
    · rw [if_pos hcause] at h
      have hrepr : Nat.repr fault.offset = Nat.repr n := (String.append_right_inj _).1 h
      have hdigits : Nat.toDigits 10 fault.offset = Nat.toDigits 10 n :=
        String.ofList_injective hrepr
      obtain rfl : fault.offset = n := by
        rw [← Nat.ofDigitChars_ten_toDigits (n := fault.offset), hdigits,
          Nat.ofDigitChars_ten_toDigits]
      exact ⟨rfl, hblank, rfl⟩
    · rw [if_neg hcause] at h
      have hinvalid (near : String) : PointsNowhere ("Invalid syntax near '" ++ near ++ "'") :=
        .append (.append (clash_ofList (by decide)) near) _
      exact absurd h ((hinvalid _).not_pointsTo rfl n)

end Fault

namespace Scan

variable {o : Nat} {data : List (Datum × Nat)} {around : List Enclosure} {fault : Fault}

theorem offset_of_fault_between
    (h : (Scan.mk o data around .between).finish.fault? = some fault) : fault.offset = o := by
  by_cases haround : around = []
  · subst haround
    cases h
  · rw [fault?_finish_between haround] at h
    cases h
    rfl

theorem getElem?_of_fault {text : List Char} (h : (scan text).fault? = some fault) :
    fault.offset = text.length ∨
      ∃ c, text[fault.offset]? = some c ∧ Text.isSeparator c = false := by
  have hfits := fits_feed text
  have hoffset := offset_initial_feed text
  rw [scan] at h
  generalize initial.feed text = s at h hfits hoffset
  obtain ⟨o, data, around, phase⟩ := s
  rw [← hoffset]
  cases phase with
  | between => exact .inl (offset_of_fault_between h)
  | atom start chars =>
    cases hd : Datum.ofAtom? chars.reverse with
    | some d =>
      rw [finish_atom hd] at h
      exact .inl (offset_of_fault_between h)
    | none =>
      simp only [finish, endAtom, hd, fail, fault?, Option.some.injEq] at h
      obtain ⟨c, hc, hstarts⟩ := hfits
      subst h
      exact .inr ⟨c, hc, (Grammar.ne_of_startsAtom hstarts).1⟩
  | string chars =>
    cases h
    exact .inl rfl
  | escape chars =>
    cases h
    exact .inl rfl
  | failed fault' =>
    rw [finish_of_failed rfl, fault?_of_failed rfl] at h
    cases h
    exact .inr hfits

end Scan

theorem getElem?_of_pointsTo {text : List Char} {fault : Fault} {n : Nat}
    (hfault : (scan text).fault? = some fault) (hn : (fault.report text).PointsTo n) :
    ∃ c, text[n]? = some c ∧ Text.isSeparator c = false ∧ (fault.report text).Shows c := by
  obtain ⟨rfl, hblank, hfound⟩ := Fault.offset_of_pointsTo hn
  rcases Scan.getElem?_of_fault hfault with hend | ⟨c, hc, hseparator⟩
  · rw [hend, List.drop_length] at hblank
    cases hblank
  · refine ⟨c, hc, hseparator, _, hfound, ?_⟩
    rw [String.toList_ofList, drop_eq_cons_of_getElem? hc]
    rfl

def SyntaxError.PointsToFault (text : List Char) (e : SyntaxError) : Prop :=
  ∀ n, e.PointsTo n → ∃ fault, (scan text).fault? = some fault ∧ e = fault.report text

theorem SyntaxError.PointsNowhere.pointsToFault {message : String} (h : PointsNowhere message)
    {e : SyntaxError} (he : e.message = message) (text : List Char) : e.PointsToFault text :=
  fun n hn => absurd hn (h.not_pointsTo he n)

theorem SyntaxError.IsMalformation.pointsToFault {e : SyntaxError} (h : e.IsMalformation)
    (text : List Char) : e.PointsToFault text := by
  obtain ⟨m, form, rfl⟩ := h
  exact m.pointsNowhere.pointsToFault rfl text

namespace Datum

theorem failsOnly_readAll (text : List Char) :
    FailsOnly (SyntaxError.PointsToFault text) (readAll text) :=
  fun _ h _ _ => exists_fault h

theorem failsOnly_readOne (text : List Char) :
    FailsOnly (SyntaxError.PointsToFault text) (readOne text) := by
  have hend : PointsNowhere "Unexpected end of input" := clash_ofList (by decide)
  have hnothing : nothingToRead.PointsToFault text := hend.pointsToFault rfl text
  have htrailing (stop : Nat) : (trailing text stop).PointsToFault text :=
    PointsNowhere.pointsToFault (.append (.append (clash_ofList (by decide)) _) _) rfl text
  unfold readOne
  split
  · exact .error hnothing
  · dsimp only
    split
    · split
      · exact .ok _
      · exact .error (htrailing _)
    · rename_i fault _ hfault
      exact .error fun n hn => ⟨fault, hfault, rfl⟩
    · exact .error hnothing

end Datum

section

variable {comments : Bool} {base : Nat} {source : String} {e : SyntaxError}

theorem Program.pointsToFault (h : ofSource comments base source = .error (.unreadable e)) :
    e.PointsToFault (readable comments source) := by
  have hforms (ds : List Datum) :
      FailsOnly (SyntaxError.PointsToFault (readable comments source))
        (Expr.ofData [] .sequence base ds) :=
    (abreast_ofData [] [] .sequence base ds).failsOnly.imp fun e he => he.pointsToFault _
  obtain ⟨e, he, heq⟩ := ((Datum.failsOnly_readAll _).bind hforms).mapError _ _ h
  cases heq
  exact he

theorem Expr.pointsToFault (h : ofSource comments base source = .error (.unreadable e)) :
    e.PointsToFault (readable comments source) := by
  have hform (d : Datum) :
      FailsOnly (SyntaxError.PointsToFault (readable comments source))
        (Expr.ofDatum [base] .sequence d) :=
    (abreast_ofDatum [base] [base] .sequence d).failsOnly.imp fun e he => he.pointsToFault _
  obtain ⟨e, he, heq⟩ := ((Datum.failsOnly_readOne _).bind hform).mapError _ _ h
  cases heq
  exact he

end

/-- A report that names a position shows the character of the source, outside of comments, with as
many bytes before it as there are before the position in the text that was read. The position itself
is too far on by the bytes that characters of comments before it have beyond their first, so it is
that of the character if these have one byte each. -/
theorem position_counts_bytes_of_comments {base : Nat} {source : String} {e : SyntaxError} {n : Nat}
    (h : Expr.ofSource true base source = .error (.unreadable e) ∨
      Program.ofSource true base source = .error (.unreadable e))
    (hn : e.PointsTo n) :
    ∃ before c after, source.toList = before ++ c :: after ∧ e.Shows c ∧
      Region.code.after before ≠ .comment ∧
      utf8Length ((readable true source).take n) = utf8Length before ∧
      n + (Comment.commented .code before).length =
        before.length + utf8Length (Comment.commented .code before) ∧
      ((∀ x ∈ Comment.commented .code before, x.utf8Size = 1) → source.toList[n]? = some c) := by
  obtain ⟨fault, hfault, rfl⟩ := h.elim Expr.pointsToFault Program.pointsToFault n hn
  obtain ⟨c, hc, hseparator, hshows⟩ := getElem?_of_pointsTo hfault hn
  have hreadable : readable true source = blankFrom .code source.toList := rfl
  rw [hreadable] at hc ⊢
  obtain ⟨before, after, hsource, hregion, rfl⟩ :=
    Comment.exists_of_getElem?_blankFrom hc hseparator
  refine ⟨before, c, after, hsource, hshows, hregion, ?_, Comment.length_blankFrom _ _, ?_⟩
  · rw [hsource, Comment.blankFrom_append, List.take_left, Comment.utf8Length_blankFrom]
  · intro hnarrow
    rw [Comment.length_blankFrom_of_narrow hnarrow, hsource, List.getElem?_append_right (Nat.le_refl _),
      Nat.sub_self, List.getElem?_cons_zero]

theorem position_counts_bytes_of_comments_narrow :
    ∃ e, Program.ofSource true 0 "; a\n(#)" = .error (.unreadable e) ∧ e.PointsTo 5 ∧
      ∃ c, e.Shows c ∧ "; a\n(#)".toList[5]? = some c := by
  have hread : Datum.readAll (readable true "; a\n(#)") =
    .error ((Fault.mk .unclosed 5).report (readable true "; a\n(#)")) := rfl
  have hprogram : Program.ofSource true 0 "; a\n(#)" = .error (.unreadable _) :=
    Program.ofSource_of_readAll hread
  have hpoints : ((Fault.mk .unclosed 5).report (readable true "; a\n(#)")).PointsTo 5 := rfl
  obtain ⟨before, c, after, hsource, hshows, -, -, -, hnarrow⟩ :=
    position_counts_bytes_of_comments (.inr hprogram) hpoints
  refine ⟨_, hprogram, hpoints, c, hshows, hnarrow fun x hx => ?_⟩
  have hall : ∀ x ∈ "; a\n(#)".toList, x.utf8Size = 1 := by
    simp [Char.utf8Size_eq_one_iff]
  rw [hsource] at hall
  exact hall x (List.mem_append_left _ (Comment.mem_of_mem_commented hx))

/-- Behind a comment with a character of two bytes: the position named is the one of the closing
parenthesis, one behind the character that is shown. -/
theorem position_behind_wide_comment :
    ∃ e, Program.ofSource true 0 ";é\n(#)" = .error (.unreadable e) ∧ e.PointsTo 5 ∧
      e.Shows '#' ∧ ";é\n(#)".toList[5]? = some ')' := by
  have hread : Datum.readAll (readable true ";é\n(#)") =
    .error ((Fault.mk .unclosed 5).report (readable true ";é\n(#)")) := rfl
  exact ⟨_, Program.ofSource_of_readAll hread, rfl, ⟨_, rfl, rfl⟩, rfl⟩

end CallByName
