import CallByName.Proofs.Locality

/-! Loading a text and typing its lines. The loop reads the text in the parts that the ends of its
lines allow, and evaluates these one by one, which comes to the same. -/

namespace CallByName

open Comment (Region blankFrom)
open Grammar

theorem exists_trim (cs : List Char) : ∃ before after, cs = before ++ Text.trim cs ++ after ∧
    (∀ c ∈ before, Text.isBlank c = true) ∧ ∀ c ∈ after, Text.isBlank c = true := by
  refine ⟨cs.takeWhile Text.isBlank,
    ((Text.trimStart cs).reverse.takeWhile Text.isBlank).reverse, ?_, ?_, ?_⟩
  · rw [List.append_assoc, Text.trim, Text.trimEnd, ← List.reverse_append,
      List.takeWhile_append_dropWhile, List.reverse_reverse, Text.trimStart,
      List.takeWhile_append_dropWhile]
  · exact List.all_eq_true.1 List.all_takeWhile
  · exact fun c hc => List.all_eq_true.1 List.all_takeWhile c (List.mem_reverse.1 hc)

theorem blankFrom_append_of_isBlank {blanks : List Char} (h : ∀ c ∈ blanks, Text.isBlank c = true)
    (text : List Char) : blankFrom .code (blanks ++ text) = blanks ++ blankFrom .code text := by
  refine Comment.absent_of_plain (fun c hc => ⟨?_, ?_⟩) text
  · exact ne_of_isBlank (h c hc) (by decide)
  · exact ne_of_isBlank (h c hc) (by decide)

theorem isProgram_of_append {blanks text : List Char} {ds : List Datum}
    (hblank : ∀ c ∈ blanks, Text.isBlank c = true) (h : IsProgram (blanks ++ text) ds) :
    IsProgram text ds := by
  induction blanks with
  | nil => exact h
  | cons c blanks ih =>
    obtain ⟨hc, hblank⟩ := List.forall_mem_cons.1 hblank
    have hcontinues : Continues [] (c :: (blanks ++ text)) ds := h
    by_cases hseparator : Text.isSeparator c = true
    · exact ih hblank ((continues_cons_of_isSeparator hseparator).1 hcontinues)
    · rw [Bool.not_eq_true] at hseparator
      have hquote : c ≠ '\'' := ne_of_isBlank hc (by decide)
      have hopen : c ≠ '(' := ne_of_isBlank hc (by decide)
      have hstring : c ≠ '"' := ne_of_isBlank hc (by decide)
      have hclose : c ≠ ')' := ne_of_isBlank hc (by decide)
      exact absurd hcontinues (not_continues_cons hseparator hquote hopen hstring
        (not_startsAtom_of_isBlank hc) hclose)

theorem not_isProgram_command {text : List Char} {ds : List Datum} :
    ¬ IsProgram (':' :: text) ds := by
  have h : ¬ Continues [] (':' :: text) ds := by
    apply not_continues_cons <;> decide
  exact h

theorem readAll_concat_newline {text : List Char} {ds : List Datum}
    (h : Datum.readAll text = .ok ds) : Datum.readAll (text ++ ['\n']) = .ok ds := by
  obtain ⟨data, hfeed, rfl⟩ := feed_concat_newline h
  have hempty : Datum.readAll [] = .ok [] := rfl
  have hread := readAll_append_of_ok hfeed hempty
  rwa [List.append_nil, List.append_nil] at hread

namespace Program

variable {base : Nat} {line rest source : String} {forms : List Expr}

theorem ofSource_concat_newline (h : ofSource true base source = .ok forms) :
    ofSource true base (source ++ "\n") = .ok forms := by
  obtain ⟨ds, hds, hforms⟩ := ofSource_eq_ok_iff.1 h
  refine ofSource_eq_ok_iff.2 ⟨ds, ?_, hforms⟩
  rw [readable_concat_newline]
  exact readAll_concat_newline hds

theorem ofSource_of_blank_line (hblank : ∀ c ∈ line.toList, Text.isBlank c = true)
    (h : ofSource true base (line ++ "\n" ++ rest) = .ok forms) :
    ofSource true base rest = .ok forms := by
  obtain ⟨ds, hds, hforms⟩ := ofSource_eq_ok_iff.1 h
  have hline : ∀ c ∈ (line ++ "\n").toList, Text.isBlank c = true := by
    rw [String.toList_append]
    rintro c hc
    rcases List.mem_append.1 hc with hc | hc
    · exact hblank c hc
    · rw [List.mem_singleton.1 hc]
      rfl
  have hreadable : readable true (line ++ "\n" ++ rest) =
      (line ++ "\n").toList ++ readable true rest := by
    simp only [readable, if_true, Comment.blank]
    rw [String.toList_append, blankFrom_append_of_isBlank hline]
  rw [hreadable, readAll_eq_ok_iff_isProgram] at hds
  exact ofSource_eq_ok_iff.2
    ⟨ds, readAll_eq_ok_iff_isProgram.2 (isProgram_of_append hline hds), hforms⟩

theorem ofSource_of_command {name : List Char} (hcommand : Text.trim line.toList = ':' :: name) :
    ofSource true base (line ++ rest) ≠ .ok forms := by
  intro h
  obtain ⟨ds, hds, -⟩ := ofSource_eq_ok_iff.1 h
  obtain ⟨before, after, hline, hbefore, -⟩ := exists_trim line.toList
  rw [hcommand, List.append_assoc] at hline
  have hreadable : readable true (line ++ rest) =
      before ++ ':' :: blankFrom .code (name ++ after ++ rest.toList) := by
    simp only [readable, if_true, Comment.blank]
    rw [String.toList_append, hline, List.append_assoc, blankFrom_append_of_isBlank hbefore]
    rfl
  rw [hreadable, readAll_eq_ok_iff_isProgram] at hds
  exact not_isProgram_command (isProgram_of_append hbefore hds)

end Program

abbrev evalTyped : Expr → Env → EvalM Value := eval (some interactiveDepth) (interactiveDepth + 1) 1

namespace Session

def Evaluates (s : Session) (forms : List Expr) (v : Option Value) (s' : Session) : Prop :=
  ∃ env meter, (runForms evalTyped forms s.env).run s.meter = some (.ok (v, env), meter) ∧
    s' = ⟨env, s.forms + forms.length, meter⟩

variable {s s' : Session} {v : Option Value} {forms more : List Expr}

theorem Evaluates.forms_eq (h : s.Evaluates forms v s') : s'.forms = s.forms + forms.length := by
  obtain ⟨env, meter, -, rfl⟩ := h
  rfl

theorem evaluates_nil : s.Evaluates [] v s' ↔ v = none ∧ s' = s := by
  constructor
  · rintro ⟨env, meter, h, rfl⟩
    cases h
    exact ⟨rfl, rfl⟩
  · rintro ⟨rfl, rfl⟩
    exact ⟨s'.env, s'.meter, rfl, rfl⟩

theorem Evaluates.of_append (hmore : more ≠ []) (h : s.Evaluates (forms ++ more) v s') :
    ∃ v₁ s₁, s.Evaluates forms v₁ s₁ ∧ s₁.Evaluates more v s' := by
  obtain ⟨env, meter, h, rfl⟩ := h
  rw [runForms_append _ _ hmore, EvalM.run_bind_eq_ok_iff] at h
  obtain ⟨⟨v₁, env₁⟩, meter₁, hforms, hrest⟩ := h
  refine ⟨v₁, ⟨env₁, s.forms + forms.length, meter₁⟩, ⟨env₁, meter₁, hforms, rfl⟩,
    env, meter, hrest, ?_⟩
  rw [List.length_append, Nat.add_assoc]

theorem Evaluates.value_of_concat {e : Expr} (he : ∀ x value, e ≠ .define x value)
    (h : s.Evaluates (forms ++ [e]) v s') : ∃ w, v = some w := by
  obtain ⟨v₁, s₁, -, env, meter, h, -⟩ := h.of_append (List.cons_ne_nil e [])
  have hform : runForms evalTyped [e] s₁.env =
      evalTyped e s₁.env >>= fun w => pure (some w, s₁.env) := by
    rw [runForms, List.foldlM_cons]
    simp only [List.foldlM_nil, bind_pure]
    cases e with
    | define x value => exact absurd rfl (he x value)
    | _ => rfl
  rw [hform, EvalM.run_bind_eq_ok_iff] at h
  obtain ⟨w, meter₁, -, hw⟩ := h
  cases hw
  exact ⟨w, rfl⟩

theorem run_eq_ok_iff (hforms : forms ≠ []) :
    s.run (some interactiveDepth) (interactiveDepth + 1) forms = some (.ok v, s') ↔
      s.Evaluates forms v s' := by
  rw [run, evalToplevel_eq_runForms hforms, Evaluates]
  generalize (runForms evalTyped forms s.env).run s.meter = r
  constructor
  · intro h
    obtain ⟨⟨r, meter⟩, rfl, h⟩ := Option.map_eq_some_iff.1 h
    cases r with
    | error e => cases h
    | ok a =>
      obtain ⟨v₁, env⟩ := a
      cases h
      exact ⟨env, meter, rfl, rfl⟩
  · rintro ⟨env, meter, rfl, rfl⟩
    rfl

end Session

namespace Repl

variable {s s' : Session} {source : String} {v : Option Value}

theorem load_eq_ok_iff : load s source = (.ok v, s') ↔
    ∃ forms, Program.ofSource true s.forms source = .ok forms ∧ s.Evaluates forms v s' := by
  unfold load
  cases Program.ofSource true s.forms source with
  | error e => simp
  | ok forms =>
    simp only [Except.ok.injEq, exists_eq_left']
    cases forms with
    | nil => simp [Session.evaluates_nil, eq_comm]
    | cons e es =>
      rw [← Session.run_eq_ok_iff (List.cons_ne_nil e es)]
      cases hrun : s.run (some interactiveDepth) (interactiveDepth + 1) (e :: es) with
      | none => simp [hrun]
      | some r => simp [hrun]

/-- What has been gathered and the rest of a text hold the forms that are left, which lead to the
value and the session. -/
def Finishes (r : Repl) (rest : String) (forms : List Expr) (v : Option Value) (s : Session) :
    Prop :=
  Program.ofSource true r.session.forms (r.pending ++ rest) = .ok forms ∧
    r.session.Evaluates forms v s

def Waits (r : Repl) : Prop :=
  r.pending = "" ∨ ∀ forms, Program.ofSource true r.session.forms r.pending ≠ .ok forms

variable {r : Repl} {line rest : String} {forms : List Expr}

theorem gather_of_load (h : load r.session (r.pending ++ line ++ "\n") = (.ok v, s)) :
    r.gather line = (v.toList.map .value, start s) := by
  rw [gather, h]
  cases v <;> rfl

structure Leaves (rest : String) (forms : List Expr) (v : Option Value) (s : Session)
    (us : List Value) (r : Repl) (forms' : List Expr) (v' : Option Value) : Prop where
  waits : r.Waits
  finishes : r.Finishes rest forms' v' s
  silent : forms = [] → us = [] ∧ forms' = []
  last : v' = v ∨ forms' = [] ∧ us = v.toList

theorem gather_leaves (h : r.Finishes (line ++ "\n" ++ rest) forms v s) :
    ∃ us r' forms' v', r.gather line = (us.map .value, r') ∧
      Leaves rest forms v s us r' forms' v' := by
  obtain ⟨hforms, heval⟩ := h
  rw [← String.append_assoc, ← String.append_assoc] at hforms
  rcases Program.ofSource_append hforms with ⟨forms₁, forms₂, h₁, h₂, rfl⟩ | ⟨e, he, hkind⟩
  · by_cases hmore : forms₂ = []
    · subst hmore
      rw [List.append_nil] at heval
      refine ⟨v.toList, start s, [], none, gather_of_load (load_eq_ok_iff.2 ⟨forms₁, h₁, heval⟩),
        .inl rfl, ⟨?_, Session.evaluates_nil.2 ⟨rfl, rfl⟩⟩, ?_, .inr ⟨rfl, rfl⟩⟩
      · rw [← heval.forms_eq] at h₂
        rwa [start, String.empty_append]
      · rw [List.append_nil]
        rintro rfl
        rw [(Session.evaluates_nil.1 heval).1]
        exact ⟨rfl, rfl⟩
    · obtain ⟨v₁, s₁, heval₁, heval₂⟩ := heval.of_append hmore
      refine ⟨v₁.toList, start s₁, forms₂, v,
        gather_of_load (load_eq_ok_iff.2 ⟨forms₁, h₁, heval₁⟩), .inl rfl, ⟨?_, heval₂⟩, ?_,
        .inl rfl⟩
      · rw [← heval₁.forms_eq] at h₂
        rwa [start, String.empty_append]
      · intro hnil
        exact absurd (List.append_eq_nil_iff.1 hnil).2 hmore
  · have hload : load r.session (r.pending ++ line ++ "\n") =
        (.error (.unreadable e), r.session) := by
      rw [load, he]
    have hgather : r.gather line = ([], ⟨r.session, r.pending ++ line ++ "\n"⟩) := by
      rw [gather, hload]
      simp [isIncomplete, hkind]
    refine ⟨[], _, forms, v, hgather, .inr ?_, ⟨hforms, heval⟩, fun hnil => ⟨rfl, hnil⟩, .inl rfl⟩
    intro forms' hforms'
    rw [he] at hforms'
    cases hforms'

theorem read_eq_gather (h : r.pending ≠ "" ∨
    (Text.trim line.toList ≠ [] ∧ ∀ name, Text.trim line.toList ≠ ':' :: name)) :
    r.read line = ((r.gather line).1, some (r.gather line).2) := by
  unfold read
  rcases h with h | ⟨hnil, hname⟩
  · have hpending : r.pending.isEmpty = false := by simpa using h
    simp [hpending]
  · have hcommand (name : List Char) :
        (String.ofList (Text.trim line.toList) == String.ofList (':' :: name)) = false :=
      beq_eq_false_iff_ne.2 fun h => hname name (String.ofList_injective h)
    have hempty : (String.ofList (Text.trim line.toList)).isEmpty = false := by simpa using hnil
    have hhelp : (String.ofList (Text.trim line.toList) == ":help") = false :=
      hcommand "help".toList
    have henv : (String.ofList (Text.trim line.toList) == ":env") = false := hcommand "env".toList
    have hquit : (String.ofList (Text.trim line.toList) == ":quit") = false :=
      hcommand "quit".toList
    have hexit : (String.ofList (Text.trim line.toList) == ":exit") = false :=
      hcommand "exit".toList
    simp only [hempty, hhelp, henv, hquit, hexit, Bool.and_false, Bool.or_self, Bool.false_eq_true,
      if_false]

theorem read_leaves (h : r.Finishes (line ++ "\n" ++ rest) forms v s) :
    ∃ us r' forms' v', r.read line = (us.map .value, some r') ∧
      Leaves rest forms v s us r' forms' v' := by
  have hgather (hread : r.read line = ((r.gather line).1, some (r.gather line).2)) :
      ∃ us r' forms' v', r.read line = (us.map .value, some r') ∧
        Leaves rest forms v s us r' forms' v' := by
    obtain ⟨us, r', forms', v', hgather, hleaves⟩ := gather_leaves h
    refine ⟨us, r', forms', v', ?_, hleaves⟩
    rw [hread, hgather]
  by_cases hpending : r.pending = ""
  · have hforms := h.1
    rw [hpending, String.empty_append] at hforms
    cases htrim : Text.trim line.toList with
    | nil =>
      have hread : r.read line = ([], some r) := by
        simp [read, hpending, htrim]
      obtain ⟨before, after, hline, hbefore, hafter⟩ := exists_trim line.toList
      have hblank : ∀ c ∈ line.toList, Text.isBlank c = true := by
        rw [hline, htrim, List.append_nil]
        exact List.forall_mem_append.2 ⟨hbefore, hafter⟩
      have hrest := Program.ofSource_of_blank_line hblank hforms
      refine ⟨[], r, forms, v, hread, .inl hpending, ⟨?_, h.2⟩, fun hnil => ⟨rfl, hnil⟩, .inl rfl⟩
      rwa [hpending, String.empty_append]
    | cons c name =>
      refine hgather (read_eq_gather (.inr ⟨?_, fun name' hcommand => ?_⟩))
      · rw [htrim]
        exact List.cons_ne_nil c name
      · rw [String.append_assoc] at hforms
        exact Program.ofSource_of_command hcommand hforms
  · exact hgather (read_eq_gather (.inl hpending))

def afterLines (r : Repl) : List String → List Notice × Option Repl
  | [] => ([], some r)
  | line :: rest =>
    match r.read line with
    | (notices, some r) => (notices ++ (r.afterLines rest).1, (r.afterLines rest).2)
    | (notices, none) => (notices, none)

theorem readLines_append {lines more : List String} {notices : List Notice} {r r' : Repl}
    (h : r.afterLines lines = (notices, some r')) :
    r.readLines (lines ++ more) = notices ++ r'.readLines more := by
  induction lines generalizing r notices with
  | nil =>
    cases h
    rfl
  | cons line lines ih =>
    rw [List.cons_append, readLines]
    rw [afterLines] at h
    generalize r.read line = out at h
    obtain ⟨said, r₁ | r₁⟩ := out
    · cases h
    · rw [Prod.mk.injEq] at h
      obtain ⟨rfl, hrest⟩ := h
      have hlines : r₁.afterLines lines = ((r₁.afterLines lines).1, some r') := by rw [← hrest]
      dsimp only
      rw [ih hlines, List.append_assoc]

end Repl

namespace TypedLine

def text : List String → String
  | [] => ""
  | line :: lines => line ++ "\n" ++ text lines

theorem toList_text_concat (lines : List String) (line : String) :
    (text (lines ++ [line])).toList = (text lines).toList ++ line.toList ++ ['\n'] := by
  induction lines with
  | nil => simp [text]
  | cons first lines ih =>
    rw [List.cons_append, text, text, String.toList_append, ih]
    simp only [String.toList_append, List.append_assoc]

def push (r : List String × List Char) (c : Char) : List String × List Char :=
  if c = '\n' then (ofChars r.2.reverse :: r.1, []) else (r.1, c :: r.2)

theorem ofChars_eq {cs : List Char} (h : ∀ c ∈ cs, c ≠ '\r' ∧ c ≠ '\x08') :
    ofChars cs = String.ofList cs := by
  have hend : cs.getLast? ≠ some '\r' := fun hlast =>
    (h _ (List.mem_of_getLast? hlast)).1 rfl
  rw [ofChars, if_neg hend]
  exact kept_of_notMem fun hmem => (h _ hmem).2 rfl

theorem foldl_push {cs typed : List Char} (hcs : ∀ c ∈ cs, c ≠ '\r' ∧ c ≠ '\x08')
    (htyped : ∀ c ∈ typed, c ≠ '\r' ∧ c ≠ '\x08') (lines : List String) :
    ∃ lines' typed', cs.foldl push (lines, typed) = (lines', typed') ∧
      (∀ c ∈ typed', c ≠ '\r' ∧ c ≠ '\x08') ∧
      (text lines'.reverse).toList ++ typed'.reverse =
        (text lines.reverse).toList ++ typed.reverse ++ cs := by
  induction cs generalizing lines typed with
  | nil => exact ⟨lines, typed, rfl, htyped, (List.append_nil _).symm⟩
  | cons c cs ih =>
    obtain ⟨hc, hcs⟩ := List.forall_mem_cons.1 hcs
    rw [List.foldl_cons, push]
    by_cases hline : c = '\n'
    · rw [if_pos hline]
      obtain ⟨lines', typed', hfold, htyped', htext⟩ := ih hcs (List.forall_mem_nil _)
        (ofChars typed.reverse :: lines)
      have hkept : ofChars typed.reverse = String.ofList typed.reverse :=
        ofChars_eq fun x hx => htyped x (List.mem_reverse.1 hx)
      refine ⟨lines', typed', hfold, htyped', ?_⟩
      rw [htext, hkept, List.reverse_cons, toList_text_concat, String.toList_ofList, hline]
      simp only [List.append_assoc, List.singleton_append, List.reverse_nil]
    · rw [if_neg hline]
      obtain ⟨lines', typed', hfold, htyped', htext⟩ := ih hcs
        (List.forall_mem_cons.2 ⟨hc, htyped⟩) lines
      refine ⟨lines', typed', hfold, htyped', ?_⟩
      rw [htext, List.reverse_cons]
      simp only [List.append_assoc, List.singleton_append]

theorem text_ofInput {input : String} (h : ∀ c ∈ input.toList, c ≠ '\r' ∧ c ≠ '\x08') :
    text (ofInput input) = input ∨ text (ofInput input) = input ++ "\n" := by
  obtain ⟨lines, typed, hfold, htyped, htext⟩ := foldl_push h (List.forall_mem_nil _) []
  have hinput : ofInput input =
      (if typed.isEmpty then lines else kept typed.reverse :: lines).reverse := by
    change (let r := input.toList.foldl push ([], [])
      (if r.2.isEmpty then r.1 else kept r.2.reverse :: r.1).reverse) = _
    rw [hfold]
  have htext : (text lines.reverse).toList ++ typed.reverse = input.toList := htext
  cases typed with
  | nil =>
    left
    rw [List.reverse_nil, List.append_nil] at htext
    rw [hinput, ← String.toList_inj]
    exact htext
  | cons c typed =>
    right
    have hkept : kept (c :: typed).reverse = String.ofList (c :: typed).reverse :=
      kept_of_notMem fun hmem => (htyped _ (List.mem_reverse.1 hmem)).2 rfl
    rw [hinput, ← String.toList_inj, List.isEmpty_cons, if_neg (by decide), List.reverse_cons,
      toList_text_concat, hkept, String.toList_ofList, htext, String.toList_append]
    rfl

end TypedLine

namespace Repl

variable {r : Repl} {lines : List String} {forms : List Expr} {v : Option Value} {s : Session}

theorem afterLines_of_finishes (hwaits : r.Waits)
    (h : r.Finishes (TypedLine.text lines) forms v s) :
    ∃ vs, r.afterLines lines = (vs.map .value, some (start s)) ∧
      (forms = [] → vs = []) ∧ ∀ w, v = some w → vs.getLast? = some w := by
  induction lines generalizing r forms v with
  | nil =>
    obtain ⟨hforms, heval⟩ := h
    rw [TypedLine.text, String.append_empty] at hforms
    obtain ⟨session, pending⟩ := r
    rcases hwaits with rfl | hwaits
    · cases hforms
      obtain ⟨rfl, rfl⟩ := Session.evaluates_nil.1 heval
      exact ⟨[], rfl, fun _ => rfl, nofun⟩
    · exact absurd hforms (hwaits forms)
  | cons line lines ih =>
    obtain ⟨us, r', forms', v', hread, hleaves⟩ := read_leaves h
    obtain ⟨vs, hlines, hsilent, hlast⟩ := ih hleaves.waits hleaves.finishes
    refine ⟨us ++ vs, ?_, ?_, ?_⟩
    · rw [afterLines, hread]
      dsimp only
      rw [hlines, List.map_append]
    · intro hnil
      obtain ⟨rfl, hforms'⟩ := hleaves.silent hnil
      exact hsilent hforms'
    · rintro w rfl
      rcases hleaves.last with rfl | ⟨hforms', rfl⟩
      · rw [List.getLast?_append, hlast w rfl, Option.some_or]
      · rw [hsilent hforms', List.append_nil]
        rfl

theorem opened_eq_ok_iff {source : String} {shown : List Notice} :
    opened (some source) = .ok (shown, r) ↔
      ∃ v s, load .initial source = (.ok v, s) ∧ shown = v.toList.map .value ∧ r = start s := by
  simp only [opened]
  generalize load .initial source = out
  obtain ⟨e | v, s⟩ := out
  · refine iff_of_false (by intro h; cases h) ?_
    rintro ⟨v, s', h, -⟩
    cases h
  · constructor
    · intro h
      cases h
      exact ⟨v, s, rfl, rfl, rfl⟩
    · rintro ⟨v', s', h, rfl, rfl⟩
      cases h
      rfl

end Repl

/-- The lines of a text that can be loaded, typed one by one where nothing has been loaded, are all
taken: the loop reports no error and ends in the state that loading the text leaves, with nothing
gathered, so whatever is typed then has the same effect. If the text ends in an expression, the last
value said is the one that loading shows. -/
theorem typing_agrees_with_loading {source : String} {shown : List Notice} {r : Repl}
    (hreturn : '\r' ∉ source.toList) (hback : '\x08' ∉ source.toList)
    (h : Repl.opened (some source) = .ok (shown, r)) :
    ∃ vs : List Value, (Repl.start .initial).afterLines (TypedLine.ofInput source) =
        (vs.map .value, some r) ∧
      r.pending = "" ∧
      (∀ forms e, Program.ofSource true 0 source = .ok (forms ++ [e]) →
        (∀ x value, e ≠ .define x value) → ∃ w, shown = [.value w] ∧ vs.getLast? = some w) ∧
      ∀ more, (Repl.start .initial).readLines (TypedLine.ofInput source ++ more) =
        vs.map .value ++ r.readLines more := by
  have hchars : ∀ c ∈ source.toList, c ≠ '\r' ∧ c ≠ '\x08' := by
    intro c hc
    refine ⟨?_, ?_⟩
    · rintro rfl
      exact hreturn hc
    · rintro rfl
      exact hback hc
  obtain ⟨v, s, hload, rfl, rfl⟩ := Repl.opened_eq_ok_iff.1 h
  obtain ⟨forms, hforms, heval⟩ := Repl.load_eq_ok_iff.1 hload
  have hfinishes : (Repl.start .initial).Finishes (TypedLine.text (TypedLine.ofInput source)) forms
      v s := by
    refine ⟨?_, heval⟩
    rw [Repl.start, String.empty_append]
    rcases TypedLine.text_ofInput hchars with htext | htext
    · rwa [htext]
    · rw [htext]
      exact Program.ofSource_concat_newline hforms
  obtain ⟨vs, hlines, -, hlast⟩ := Repl.afterLines_of_finishes (.inl rfl) hfinishes
  refine ⟨vs, hlines, rfl, ?_, fun more => Repl.readLines_append hlines⟩
  intro forms' e hforms' he
  have hsame : forms = forms' ++ [e] := Except.ok.inj (hforms.symm.trans hforms')
  subst hsame
  obtain ⟨w, rfl⟩ := heval.value_of_concat he
  exact ⟨w, rfl, hlast w rfl⟩

theorem typing_agrees_with_loading_over_lines :
    ∃ r : Repl, Repl.opened (some "(define s \"a\nb\") ; two\n\n(+ 1\n  2) s") =
        .ok ([.value (.str "a\nb")], r) ∧
      ∃ vs : List Value, (Repl.start .initial).afterLines
          (TypedLine.ofInput "(define s \"a\nb\") ; two\n\n(+ 1\n  2) s") =
        (vs.map .value, some r) ∧ r.session.env.boundNames = ["s"] := by
  have hreturn : '\r' ∉ "(define s \"a\nb\") ; two\n\n(+ 1\n  2) s".toList := by decide
  have hback : '\x08' ∉ "(define s \"a\nb\") ; two\n\n(+ 1\n  2) s".toList := by decide
  have hdata : Datum.readAll (readable true "(define s \"a\nb\") ; two\n\n(+ 1\n  2) s") =
    .ok [.list [.sym "define", .sym "s", .str "a\nb"], .list [.sym "+", .num 1, .num 2],
      .sym "s"] := rfl
  have hforms : Expr.ofData [] .sequence 0 [.list [.sym "define", .sym "s", .str "a\nb"],
      .list [.sym "+", .num 1, .num 2], .sym "s"] =
    .ok [.define "s" (.str "a\nb"), .app (.prim .add) [.num 1, .num 2], .var "s"] := rfl
  have heval : Session.initial.Evaluates
      [.define "s" (.str "a\nb"), .app (.prim .add) [.num 1, .num 2], .var "s"]
      (some (.str "a\nb")) ⟨.bind 1 [("s", .str "a\nb")] .empty .empty, 3, ⟨1, 1⟩⟩ :=
    ⟨_, _, rfl, rfl⟩
  have hload := Repl.load_eq_ok_iff.2
    ⟨_, Program.ofSource_eq_ok_iff.2 ⟨_, hdata, hforms⟩, heval⟩
  have hopened := Repl.opened_eq_ok_iff.2 ⟨_, _, hload, rfl, rfl⟩
  obtain ⟨vs, hlines, -⟩ := typing_agrees_with_loading hreturn hback hopened
  exact ⟨_, hopened, vs, hlines, rfl⟩

end CallByName
