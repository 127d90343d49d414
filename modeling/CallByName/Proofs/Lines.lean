import CallByName.Proofs.ScanState
import CallByName.Repl.Loop

/-! Texts cut at the end of a line. If the whole can be read, the part before the cut either can be
read on its own, and so can the part behind it, or it is reported as not complete. -/

namespace CallByName

open Comment (Region blankFrom)
open Grammar

theorem Fault.kind_report (fault : Fault) (text : List Char) : (fault.report text).kind =
    if fault.cause = .tooDeep then .tooDeep
    else if (text.drop fault.offset).all Text.isBlank then .incomplete else .invalid := by
  rw [report]
  split
  · rfl
  · split <;> rfl

theorem Fault.kind_report_of_ne {fault : Fault} {text : List Char}
    (h : (fault.report text).kind ≠ .incomplete) :
    (fault.report text).kind = .invalid ∨ (fault.report text).kind = .tooDeep := by
  rw [kind_report] at h ⊢
  by_cases hdeep : fault.cause = .tooDeep
  · rw [if_pos hdeep]
    exact .inr rfl
  · rw [if_neg hdeep] at h ⊢
    refine .inl (if_neg fun hblank => h ?_)
    rw [if_pos hblank]

theorem Fault.kind_report_at_end {fault : Fault} {text : List Char}
    (hcause : fault.cause = .unclosed) (hoffset : fault.offset = text.length) :
    (fault.report text).kind = .incomplete := by
  rw [kind_report, hcause, hoffset, List.drop_length]
  rfl

theorem Datum.readAll_of_fault {text : List Char} {fault : Fault}
    (h : (scan text).fault? = some fault) : readAll text = .error (fault.report text) := by
  simp only [readAll, h]

theorem Datum.exists_fault {text : List Char} {e : SyntaxError} (h : readAll text = .error e) :
    ∃ fault, (scan text).fault? = some fault ∧ e = fault.report text := by
  unfold readAll at h
  cases hfault : (scan text).fault? with
  | none => simp [hfault] at h
  | some fault =>
    simp only [hfault, Except.error.injEq] at h
    exact ⟨fault, rfl, h.symm⟩

namespace Scan

variable {o : Nat} {data : List (Datum × Nat)} {around : List Enclosure}

theorem fault?_finish_string (chars : List Char) :
    (Scan.mk o data around (.string chars)).finish.fault? = some ⟨.unclosed, o⟩ := rfl

theorem fault?_finish_between (h : around ≠ []) :
    (Scan.mk o data around .between).finish.fault? =
      some ⟨if maxNesting ≤ around.length then .tooDeep else .unclosed, o⟩ := by
  cases around with
  | nil => exact absurd rfl h
  | cons e around => simp [finish, endAtom, fail, fault?]

theorem finish_of_fault?_eq_none {s : Scan} (h : s.finish.fault? = none) :
    s.finish = ⟨s.offset, s.finish.data, [], .between⟩ ∧
      ∀ c, isSymbolChar c = false → s.read c = s.finish.read c := by
  have hbetween {o : Nat} {data : List (Datum × Nat)} {around : List Enclosure}
      (h : (Scan.mk o data around .between).finish.fault? = none) :
      (Scan.mk o data around .between).finish = ⟨o, data, [], .between⟩ ∧ around = [] := by
    by_cases haround : around = []
    · subst haround
      exact ⟨rfl, rfl⟩
    · rw [fault?_finish_between haround] at h
      cases h
  obtain ⟨o, data, around, phase⟩ := s
  cases phase with
  | between =>
    obtain ⟨hfinish, rfl⟩ := hbetween h
    exact ⟨hfinish, fun _ _ => rfl⟩
  | atom start chars =>
    cases hd : Datum.ofAtom? chars.reverse with
    | none => simp [finish, endAtom, hd, fail, fault?] at h
    | some d =>
      rw [finish_atom hd] at h ⊢
      obtain ⟨hfinish, haround⟩ := hbetween h
      have hdelivered : (delivered d o around data).finish = delivered d o around data := by
        rw [delivered, hfinish, haround]
      rw [hdelivered]
      refine ⟨?_, fun c hc => read_atom_some hd hc⟩
      rw [delivered, haround]
  | string chars => cases h
  | escape chars => cases h
  | failed fault => cases h

end Scan

def EndsLine (text : List Char) : Prop := ∃ start, text = start ++ ['\n']

theorem Scan.phase_feed_of_endsLine {text : List Char} (h : EndsLine text) :
    (initial.feed text).phase = .between ∨ (∃ chars, (initial.feed text).phase = .string chars) ∨
      ∃ fault, (initial.feed text).phase = .failed fault := by
  obtain ⟨start, rfl⟩ := h
  rw [feed_append]
  exact phase_read_newline (initial.feed start)

theorem readAll_append {text rest : List Char} (hline : EndsLine text) {ds : List Datum}
    (h : Datum.readAll (text ++ rest) = .ok ds) :
    (∃ ds₁ ds₂, Datum.readAll text = .ok ds₁ ∧ Datum.readAll rest = .ok ds₂ ∧ ds = ds₁ ++ ds₂ ∧
      (Scan.initial.feed text).phase = .between) ∨
    ∃ e, Datum.readAll text = .error e ∧ e.kind = .incomplete := by
  rw [readAll_eq_ok_iff_accepts, Scan.accepts_append] at h
  have hphase := Scan.phase_feed_of_endsLine hline
  have hoffset := Scan.offset_initial_feed text
  have hincomplete (hfault : (scan text).fault? = some ⟨.unclosed, text.length⟩) :
      ∃ e, Datum.readAll text = .error e ∧ e.kind = .incomplete :=
    ⟨_, Datum.readAll_of_fault hfault, Fault.kind_report_at_end rfl rfl⟩
  rw [scan] at hincomplete
  generalize hs : Scan.initial.feed text = s at *
  obtain ⟨o, data, around, phase⟩ := s
  dsimp only at hoffset
  subst hoffset
  rcases hphase with rfl | ⟨chars, rfl⟩ | ⟨fault, rfl⟩
  · obtain ⟨ds₂, rfl, hrest⟩ := Scan.accepts_between_iff.1 h
    by_cases haround : around = []
    · subst haround
      refine .inl ⟨trees data, ds₂, ?_, readAll_eq_ok_iff_isProgram.2 hrest, rfl, rfl⟩
      rw [readAll_eq_ok_iff_accepts, Scan.Accepts, hs]
      exact ⟨rfl, rfl⟩
    · have hroom : ¬ maxNesting ≤ around.length := fun hdeep =>
        not_continues_of_maxNesting_le hdeep hrest
      have hfault : (Scan.mk text.length data around .between).finish.fault? = some ⟨_, _⟩ :=
        Scan.fault?_finish_between haround
      rw [if_neg hroom] at hfault
      exact .inr (hincomplete hfault)
  · exact .inr (hincomplete (Scan.fault?_finish_string chars))
  · exact absurd h (Scan.not_accepts_of_failed rfl)

namespace Comment

def Absent (text : List Char) : Prop :=
  ∀ rest, blankFrom .code (text ++ rest) = text ++ blankFrom .code rest

theorem Absent.append {text more : List Char} (h : Absent text) (hmore : Absent more) :
    Absent (text ++ more) := by
  intro rest
  rw [List.append_assoc, h, hmore, List.append_assoc]

theorem absent_of_plain {text : List Char} (h : ∀ c ∈ text, c ≠ ';' ∧ c ≠ '"') : Absent text := by
  intro rest
  induction text with
  | nil => rfl
  | cons c text ih =>
    obtain ⟨⟨hcomment, hstring⟩, h⟩ := List.forall_mem_cons.1 h
    rw [List.cons_append, blankFrom, Region.keep, if_neg hcomment, Region.next, if_neg hcomment,
      if_neg hstring, ih h]
    rfl

theorem Absent.readable_eq {text : String} (h : Absent text.toList) (comments : Bool) :
    readable comments text = text.toList := by
  cases comments with
  | false => rfl
  | true =>
    have hblank := h []
    rwa [List.append_nil, blankFrom_nil, List.append_nil] at hblank

end Comment

theorem readable_append (comments : Bool) (source more : String) :
    readable comments (source ++ more) = readable comments source ++
      if comments then blankFrom (Region.code.after source.toList) more.toList
      else more.toList := by
  cases comments with
  | false => exact String.toList_append
  | true =>
    simp only [readable, if_true, Comment.blank, String.toList_append]
    exact Comment.blankFrom_append _ _ _

theorem readable_concat_newline (comments : Bool) (source : String) :
    readable comments (source ++ "\n") = readable comments source ++ ['\n'] := by
  rw [readable_append]
  cases comments with
  | false => rfl
  | true => cases Region.code.after source.toList <;> rfl

theorem endsLine_readable (comments : Bool) (source : String) :
    EndsLine (readable comments (source ++ "\n")) :=
  ⟨readable comments source, readable_concat_newline comments source⟩

theorem readable_append_of_between {comments : Bool} {source more : String}
    (h : (Scan.initial.feed (readable comments (source ++ "\n"))).phase = .between) :
    readable comments (source ++ "\n" ++ more) =
      readable comments (source ++ "\n") ++ readable comments more := by
  rw [readable_append]
  cases comments with
  | false => rfl
  | true =>
    have hinitial : Scan.initial.phase.In .code := trivial
    have hregion := Scan.in_feed_blankFrom hinitial (source ++ "\n").toList
    have hcode : Region.code.after (source ++ "\n").toList = .code := by
      change (Scan.initial.feed (blankFrom .code (source ++ "\n").toList)).phase = .between at h
      rw [h, String.toList_append, Region.after, List.foldl_append] at hregion
      rw [String.toList_append, Region.after, List.foldl_append]
      generalize source.toList.foldl Region.next .code = r at *
      cases r with
      | string => exact hregion.elim
      | escape => exact hregion.elim
      | _ => rfl
    rw [hcode]
    rfl

theorem readAll_readable_append {comments : Bool} {source more : String} {ds : List Datum}
    (h : Datum.readAll (readable comments (source ++ "\n" ++ more)) = .ok ds) :
    (∃ ds₁ ds₂, Datum.readAll (readable comments (source ++ "\n")) = .ok ds₁ ∧
      Datum.readAll (readable comments more) = .ok ds₂ ∧ ds = ds₁ ++ ds₂) ∨
    ∃ e, Datum.readAll (readable comments (source ++ "\n")) = .error e ∧ e.kind = .incomplete := by
  have hline := endsLine_readable comments source
  rw [readable_append] at h
  rcases readAll_append hline h with ⟨ds₁, ds₂, h₁, -, -, hphase⟩ | hincomplete
  · rw [← readable_append, readable_append_of_between hphase] at h
    rcases readAll_append hline h with ⟨ds₁', ds₂, h₁', h₂, hds, -⟩ | hincomplete
    · exact .inl ⟨ds₁', ds₂, h₁', h₂, hds⟩
    · exact .inr hincomplete
  · exact .inr hincomplete

theorem bind_eq_ok_iff {ε α β : Type} {x : Except ε α} {f : α → Except ε β} {b : β} :
    (x >>= f) = .ok b ↔ ∃ a, x = .ok a ∧ f a = .ok b := by
  cases x with
  | error e => simp [bind, Except.bind]
  | ok a => simp [bind, Except.bind]

namespace Expr

variable {site : Site} {position : Position}

theorem ofData_append (base : Nat) (ds₁ ds₂ : List Datum) :
    ofData site position base (ds₁ ++ ds₂) = (do
      let es₁ ← ofData site position base ds₁
      let es₂ ← ofData site position (base + ds₁.length) ds₂
      return es₁ ++ es₂) := by
  induction ds₁ generalizing base with
  | nil =>
    rw [List.nil_append, ofData]
    change _ = ofData site position (base + 0) ds₂ >>= pure
    rw [bind_pure, Nat.add_zero]
  | cons d ds₁ ih =>
    rw [List.cons_append, ofData, ofData, List.length_cons, Nat.add_comm ds₁.length 1,
      ← Nat.add_assoc]
    simp only [ih, bind_assoc, pure_bind, List.cons_append]

theorem length_of_ofData {base : Nat} {ds : List Datum} {es : List Expr}
    (h : ofData site position base ds = .ok es) : es.length = ds.length := by
  induction ds generalizing base es with
  | nil =>
    rw [ofData] at h
    cases h
    rfl
  | cons d ds ih =>
    rw [ofData] at h
    obtain ⟨e, -, h⟩ := bind_eq_ok_iff.1 h
    obtain ⟨es', hes, heq⟩ := bind_eq_ok_iff.1 h
    cases heq
    rw [List.length_cons, List.length_cons, ih hes]

end Expr

namespace Program

theorem ofSource_eq_ok_iff {comments : Bool} {base : Nat} {source : String} {forms : List Expr} :
    ofSource comments base source = .ok forms ↔
      ∃ ds, Datum.readAll (readable comments source) = .ok ds ∧
        Expr.ofData [] .sequence base ds = .ok forms := by
  rw [← bind_eq_ok_iff, ofSource]
  generalize (Datum.readAll (readable comments source) >>= Expr.ofData [] .sequence base) = x
  constructor
  · intro h
    cases x with
    | error e => cases h
    | ok forms' =>
      cases h
      rfl
  · rintro rfl
    rfl

theorem ofSource_of_readAll {comments : Bool} {base : Nat} {source : String} {e : SyntaxError}
    (h : Datum.readAll (readable comments source) = .error e) :
    ofSource comments base source = .error (.unreadable e) := by
  rw [ofSource, h]
  rfl

theorem exists_unreadable {comments : Bool} {base : Nat} {source : String}
    (h : ∀ forms, ofSource comments base source ≠ .ok forms) :
    ∃ e, ofSource comments base source = .error (.unreadable e) := by
  rw [ofSource] at h ⊢
  generalize (Datum.readAll (readable comments source) >>= Expr.ofData [] .sequence base) = x at *
  cases x with
  | error e => exact ⟨e, rfl⟩
  | ok forms => exact absurd rfl (h forms)

theorem ofSource_append {comments : Bool} {base : Nat} {source more : String} {forms : List Expr}
    (h : ofSource comments base (source ++ "\n" ++ more) = .ok forms) :
    (∃ forms₁ forms₂, ofSource comments base (source ++ "\n") = .ok forms₁ ∧
      ofSource comments (base + forms₁.length) more = .ok forms₂ ∧ forms = forms₁ ++ forms₂) ∨
    ∃ e, ofSource comments base (source ++ "\n") = .error (.unreadable e) ∧
      e.kind = .incomplete := by
  obtain ⟨ds, hds, hforms⟩ := ofSource_eq_ok_iff.1 h
  rcases readAll_readable_append hds with ⟨ds₁, ds₂, h₁, h₂, rfl⟩ | ⟨e, he, hkind⟩
  · rw [Expr.ofData_append] at hforms
    obtain ⟨forms₁, hforms₁, hforms⟩ := bind_eq_ok_iff.1 hforms
    obtain ⟨forms₂, hforms₂, heq⟩ := bind_eq_ok_iff.1 hforms
    cases heq
    rw [← Expr.length_of_ofData hforms₁] at hforms₂
    exact .inl ⟨forms₁, forms₂, ofSource_eq_ok_iff.2 ⟨ds₁, h₁, hforms₁⟩,
      ofSource_eq_ok_iff.2 ⟨ds₂, h₂, hforms₂⟩, rfl⟩
  · exact .inr ⟨e, ofSource_of_readAll he, hkind⟩

end Program

theorem readAll_of_rejected {comments : Bool} {source : String} {e : SyntaxError}
    (h : Datum.readAll (readable comments (source ++ "\n")) = .error e)
    (hkind : e.kind ≠ .incomplete) (more : String) :
    ∃ e', Datum.readAll (readable comments (source ++ "\n" ++ more)) = .error e' := by
  cases hmore : Datum.readAll (readable comments (source ++ "\n" ++ more)) with
  | error e' => exact ⟨e', rfl⟩
  | ok ds =>
    rcases readAll_readable_append hmore with ⟨ds₁, ds₂, h₁, -⟩ | ⟨e', he', hincomplete⟩
    · rw [h] at h₁
      cases h₁
    · rw [h] at he'
      cases he'
      exact absurd hincomplete hkind

theorem Program.ofSource_of_rejected {comments : Bool} {base : Nat} {source : String}
    {e : SyntaxError} (h : ofSource comments base (source ++ "\n") = .error (.unreadable e))
    (hkind : e.kind ≠ .incomplete) (more : String) :
    ∃ e', ofSource comments base (source ++ "\n" ++ more) = .error (.unreadable e') := by
  refine exists_unreadable fun forms hforms => ?_
  rcases ofSource_append hforms with ⟨forms₁, forms₂, h₁, -⟩ | ⟨e', he', hincomplete⟩
  · rw [h] at h₁
    cases h₁
  · rw [h] at he'
    cases he'
    exact absurd hincomplete hkind

/-- What is refused at the end of a line, and not for want of more, is refused whatever follows: by
the reader, and by the loop, which gives up such input. -/
theorem rejection_is_final :
    (∀ comments source e, Datum.readAll (readable comments (source ++ "\n")) = .error e →
      e.kind ≠ .incomplete → (e.kind = .invalid ∨ e.kind = .tooDeep) ∧
        ∀ more, ∃ e', Datum.readAll (readable comments (source ++ "\n" ++ more)) = .error e') ∧
    ∀ (r : Repl) line e,
      Program.ofSource true r.session.forms (r.pending ++ line ++ "\n") = .error (.unreadable e) →
      e.kind ≠ .incomplete → ∀ more, ∃ e',
        Repl.load r.session (r.pending ++ line ++ "\n" ++ more) =
          (.error (.unreadable e'), r.session) := by
  refine ⟨?_, ?_⟩
  · intro comments source e h hkind
    refine ⟨?_, readAll_of_rejected h hkind⟩
    obtain ⟨fault, -, rfl⟩ := Datum.exists_fault h
    exact Fault.kind_report_of_ne hkind
  · intro r line e h hkind more
    obtain ⟨e', he'⟩ := Program.ofSource_of_rejected h hkind more
    refine ⟨e', ?_⟩
    rw [Repl.load, he']

theorem rejection_is_final_in_list :
    (∃ e, Datum.readAll (readable true ("(a #q" ++ "\n")) = .error e ∧ e.kind = .invalid ∧
      ∀ more, ∃ e', Datum.readAll (readable true ("(a #q" ++ "\n" ++ more)) = .error e') ∧
    ∀ more, ∃ e', Repl.load .initial ("(a\n" ++ "#q" ++ "\n" ++ more) =
      (.error (.unreadable e'), .initial) := by
  refine ⟨?_, ?_⟩
  · have h : Datum.readAll (readable true ("(a #q" ++ "\n")) =
        .error ((Fault.mk .unclosed 3).report "(a #q\n".toList) := rfl
    have hkind : ((Fault.mk .unclosed 3).report "(a #q\n".toList).kind = .invalid := rfl
    have hfinal := rejection_is_final.1 true "(a #q" _ h (by rw [hkind]; decide)
    exact ⟨_, h, hkind, hfinal.2⟩
  · have h : Program.ofSource true 0 ("(a\n" ++ "#q" ++ "\n") =
        .error (.unreadable ((Fault.mk .unclosed 3).report "(a\n#q\n".toList)) := rfl
    have hkind : ((Fault.mk .unclosed 3).report "(a\n#q\n".toList).kind = .invalid := rfl
    exact rejection_is_final.2 ⟨.initial, "(a\n"⟩ "#q" _ h (by rw [hkind]; decide)

end CallByName
