import CallByName.Proofs.Delivery
import CallByName.Proofs.Layout
import CallByName.Proofs.Locality

/-! Comments make no difference. A comment is blanked out into separators, and outside of strings
any number of separators does what one of them does. They shift what stands behind them, so a text
is refused with other positions, but for the same kind of reason. -/

namespace CallByName

open Comment (Region blankFrom)
open Grammar

def Datum.outcome (text : List Char) : Except SyntaxErrorKind (List Datum) :=
  (readAll text).mapError SyntaxError.kind

theorem Datum.outcome_eq_ok {text : List Char} {ds : List Datum} (h : readAll text = .ok ds) :
    outcome text = .ok ds := by
  rw [outcome, h, Except.mapError]

theorem Datum.outcome_eq_error {text : List Char} {e : SyntaxError} (h : readAll text = .error e) :
    outcome text = .error e.kind := by
  rw [outcome, h, Except.mapError]

section

variable {start blanks : List Char} {fault : Fault}

theorem Fault.kind_report_gap (hoffset : fault.offset ≤ start.length) (h : Blanks blanks)
    (text : List Char) :
    (fault.report (start ++ blanks ++ text)).kind = (fault.report (start ++ text)).kind := by
  rw [kind_report, kind_report, List.append_assoc, List.drop_append_of_le_length hoffset,
    List.drop_append_of_le_length hoffset, List.all_append, List.all_append, List.all_append,
    h.all_isBlank, Bool.true_and]

namespace Scan

variable {s : Scan}

theorem feed_gap (h : s.phase.In .code) :
    (∃ data around, ∀ blanks, Blanks blanks → blanks ≠ [] →
      ∃ o, s.feed blanks = ⟨o, data, around, .between⟩) ∨
    ∃ fault, ∀ blanks, Blanks blanks → blanks ≠ [] → (s.feed blanks).phase = .failed fault := by
  have hbetween (o : Nat) (data : List (Datum × Nat)) (around : List Enclosure)
      (blanks : List Char) (hblanks : Blanks blanks) :
      ∃ o', (Scan.mk o data around .between).feed blanks = ⟨o', data, around, .between⟩ := by
    have hfeed : ∃ o', (Scan.mk o data around .between).feed (blanks ++ []) =
      (Scan.mk o' data around .between).feed [] := feed_blanks hblanks o
    rwa [List.append_nil] at hfeed
  obtain ⟨o, data, around, phase⟩ := s
  cases phase with
  | between => exact .inl ⟨data, around, fun blanks hblanks _ => hbetween o data around _ hblanks⟩
  | atom pos chars =>
    have hsymbol {c : Char} (hc : Text.isSeparator c = true) : isSymbolChar c = false :=
      Bool.eq_false_iff.2 fun hatom =>
        absurd hc (Bool.eq_false_iff.1 (ne_of_startsAtom (.inr hatom)).1)
    cases hd : Datum.ofAtom? chars.reverse with
    | none =>
      refine .inr ⟨⟨missing around, pos⟩, fun blanks hblanks hne => ?_⟩
      obtain ⟨c, blanks, rfl⟩ := List.exists_cons_of_ne_nil hne
      have hc := (blanks_cons.1 hblanks).1
      exact feed_of_failed (read_atom_none hd (hsymbol hc)) blanks
    | some d =>
      refine .inl ⟨(deliver d o around data).2, (deliver d o around data).1,
        fun blanks hblanks hne => ?_⟩
      obtain ⟨c, blanks, rfl⟩ := List.exists_cons_of_ne_nil hne
      have hc := (blanks_cons.1 hblanks).1
      rw [feed_cons, read_atom_some hd (hsymbol hc), ← feed_cons]
      exact hbetween o _ _ _ hblanks
  | failed fault => exact .inr ⟨fault, fun blanks _ _ => feed_of_failed rfl blanks⟩
  | _ => exact h.elim

theorem offset_le_of_failed (h : (initial.feed (start ++ blanks)).phase = .failed fault)
    (hblanks : Blanks blanks) : fault.offset ≤ start.length := by
  have hfits := fits_feed (start ++ blanks)
  rw [h] at hfits
  obtain ⟨c, hc, hseparator⟩ := hfits
  refine Nat.le_of_not_lt fun hlt => ?_
  rw [List.getElem?_append_right (Nat.le_of_lt hlt)] at hc
  have hmem : c ∈ blanks := List.mem_of_getElem? hc
  exact absurd (hblanks c hmem) (Bool.eq_false_iff.1 hseparator)

end Scan

theorem outcome_gap (hcode : (Scan.initial.feed start).phase.In .code) (text : List Char) :
    ∃ outcome, ∀ blanks, Blanks blanks → blanks ≠ [] →
      Datum.outcome (start ++ blanks ++ text) = outcome := by
  obtain ⟨data, around, hfeed⟩ | ⟨fault, hfeed⟩ := Scan.feed_gap hcode
  · let s : Scan := ⟨0, [], around, .between⟩
    have hbehind (blanks : List Char) (hblanks : Blanks blanks) (hne : blanks ≠ []) :
        Scan.initial.feed (start ++ blanks) = s.behind (start ++ blanks).length data := by
      obtain ⟨o, h⟩ := hfeed blanks hblanks hne
      have hoffset := Scan.offset_initial_feed (start ++ blanks)
      rw [Scan.feed_append, h] at hoffset ⊢
      rw [← hoffset]
      rfl
    cases hfault : (s.feed text).finish.fault? with
    | none =>
      refine ⟨.ok (trees data ++ trees (s.feed text).finish.data), fun blanks hblanks hne => ?_⟩
      have hbehind := hbehind blanks hblanks hne
      exact Datum.outcome_eq_ok (readAll_append_of_fault?_eq_none rfl hbehind hfault)
    | some fault =>
      refine ⟨.error (fault.report text).kind, fun blanks hblanks hne => ?_⟩
      obtain ⟨e, he, hkind⟩ :=
        readAll_append_of_fault?_eq_some rfl (hbehind blanks hblanks hne) hfault
      rw [Datum.outcome_eq_error he, hkind]
  · refine ⟨.error (fault.report (start ++ text)).kind, fun blanks hblanks hne => ?_⟩
    have hphase : (Scan.initial.feed (start ++ blanks)).phase = .failed fault := by
      rw [Scan.feed_append]
      exact hfeed blanks hblanks hne
    have hfault : (scan (start ++ blanks ++ text)).fault? = some fault := by
      rw [scan, Scan.feed_append]
      exact Scan.fault?_finish_feed_of_failed hphase text
    rw [Datum.outcome_eq_error (Datum.readAll_of_fault hfault),
      Fault.kind_report_gap (Scan.offset_le_of_failed hphase hblanks) hblanks]

end

namespace Comment

variable {cs : List Char}

theorem blanks_blankFrom_comment (h : '\n' ∉ cs) : Blanks (blankFrom .comment cs) := by
  induction cs with
  | nil => exact List.forall_mem_nil _
  | cons c cs ih =>
    rw [List.mem_cons, not_or] at h
    obtain ⟨hc, hcs⟩ := h
    rw [blankFrom, Region.keep, Region.next, if_neg (Ne.symm hc), if_neg (Ne.symm hc)]
    refine List.forall_mem_append.2 ⟨?_, ih hcs⟩
    intro x hx
    rw [List.eq_of_mem_replicate hx]
    rfl

theorem blankFrom_line (h : '\n' ∉ cs) (rest : List Char) :
    blankFrom .code (';' :: (cs ++ '\n' :: rest)) =
      ' ' :: blankFrom .comment cs ++ ['\n'] ++ blankFrom .code rest := by
  have hrest : blankFrom .comment ('\n' :: rest) = '\n' :: blankFrom .code rest := rfl
  have hstart : blankFrom .code (';' :: (cs ++ '\n' :: rest)) =
      ' ' :: blankFrom .comment (cs ++ '\n' :: rest) := rfl
  rw [hstart, blankFrom_append, after_comment h, hrest, List.append_assoc]
  rfl

theorem blanks_line (h : '\n' ∉ cs) : Blanks (' ' :: blankFrom .comment cs ++ ['\n']) :=
  List.forall_mem_append.2 ⟨blanks_cons.2 ⟨rfl, blanks_blankFrom_comment h⟩,
    List.forall_mem_singleton.2 rfl⟩

end Comment

/-- A comment that starts outside of strings makes no difference, whatever it contains. -/
theorem comments_transparent {before comment : String}
    (hcode : Region.code.after before.toList = .code) (hcomment : '\n' ∉ comment.toList)
    (behind : String) :
    Datum.outcome (readable true (before ++ ";" ++ comment ++ "\n" ++ behind)) =
      Datum.outcome (readable true (before ++ "\n" ++ behind)) := by
  have hphase : (Scan.initial.feed (readable true before)).phase.In .code := by
    have hinitial : Scan.initial.phase.In .code := trivial
    have hregion := Scan.in_feed_blankFrom hinitial before.toList
    rwa [hcode] at hregion
  have hcomment' : readable true (before ++ ";" ++ comment ++ "\n" ++ behind) =
      readable true before ++ (' ' :: blankFrom .comment comment.toList ++ ['\n']) ++
        blankFrom .code behind.toList := by
    simp only [String.append_assoc, readable_true_append, hcode, String.toList_append]
    rw [List.append_assoc]
    exact congrArg (readable true before ++ ·) (Comment.blankFrom_line hcomment behind.toList)
  have hnewline : readable true (before ++ "\n" ++ behind) =
      readable true before ++ ['\n'] ++ blankFrom .code behind.toList := by
    simp only [String.append_assoc, readable_true_append, hcode, String.toList_append]
    rw [List.append_assoc]
    rfl
  obtain ⟨outcome, hgap⟩ := outcome_gap hphase (blankFrom .code behind.toList)
  rw [hcomment', hnewline, hgap _ (Comment.blanks_line hcomment) (List.cons_ne_nil _ _),
    hgap ['\n'] (List.forall_mem_singleton.2 rfl) (List.cons_ne_nil _ _)]

theorem comments_transparent_in_list :
    Datum.outcome (readable true ("(a \";\"" ++ ";" ++ "é\\\" ) ( ;'" ++ "\n" ++ "b)")) =
      .ok [.list [.sym "a", .str ";", .sym "b"]] ∧
    Datum.outcome (readable true ("(a \";\"" ++ ";" ++ "é\\\" ) ( ;'" ++ "\n" ++ "#q)")) =
      .error .invalid := by
  have hcode : Region.code.after "(a \";\"".toList = .code := rfl
  have hcomment : '\n' ∉ "é\\\" ) ( ;'".toList := by decide
  have hread : Datum.outcome (readable true ("(a \";\"" ++ "\n" ++ "b)")) =
    .ok [.list [.sym "a", .str ";", .sym "b"]] := rfl
  have hrefused : Datum.outcome (readable true ("(a \";\"" ++ "\n" ++ "#q)")) =
    .error .invalid := rfl
  rw [comments_transparent hcode hcomment, comments_transparent hcode hcomment]
  exact ⟨hread, hrefused⟩

end CallByName
