import CallByName.Proofs.Completion
import Mathlib.Tactic.SplitIfs

/-! Reading behind a text that has been read. A scan that starts between outermost data does not
look back, so a text is read there as on its own, only farther on; and the end of a line always
leads to such a place behind a text that can be read. -/

namespace CallByName

open Grammar

def Fault.shift (n : Nat) (fault : Fault) : Fault := ⟨fault.cause, n + fault.offset⟩

def Phase.shift (n : Nat) : Phase → Phase
  | .atom start chars => .atom (n + start) chars
  | .failed fault => .failed (fault.shift n)
  | .between => .between
  | .string chars => .string chars
  | .escape chars => .escape chars

theorem Fault.kind_report_shift (fault : Fault) (start text : List Char) :
    ((fault.shift start.length).report (start ++ text)).kind = (fault.report text).kind := by
  rw [kind_report, kind_report, shift, List.drop_length_add_append]

namespace Scan

def behind (n : Nat) (before : List (Datum × Nat)) (s : Scan) : Scan :=
  ⟨n + s.offset, s.data.map (fun d => (d.1, n + d.2)) ++ before, s.around, s.phase.shift n⟩

variable (n : Nat) (before : List (Datum × Nat)) (s : Scan)

theorem deliver_behind (d : Datum) (stop : Nat) (around : List Enclosure)
    (data : List (Datum × Nat)) :
    deliver d (n + stop) around (data.map (fun d => (d.1, n + d.2)) ++ before) =
      ((deliver d stop around data).1,
        (deliver d stop around data).2.map (fun d => (d.1, n + d.2)) ++ before) := by
  induction around generalizing d with
  | nil => rfl
  | cons e around ih =>
    cases e with
    | list items => rfl
    | quote => exact ih _

theorem complete_behind (d : Datum) (stop : Nat) (around : List Enclosure) :
    (s.behind n before).complete d (n + stop) around =
      (s.complete d stop around).behind n before := by
  simp only [complete, behind, deliver_behind, Phase.shift]

theorem endAtom_behind : (s.behind n before).endAtom = s.endAtom.behind n before := by
  obtain ⟨o, data, around, phase⟩ := s
  cases phase with
  | atom start chars =>
    simp only [endAtom, behind, Phase.shift]
    cases Datum.ofAtom? chars.reverse with
    | none => rfl
    | some d => exact complete_behind n before (Scan.mk o data around (.atom start chars)) d o around
  | _ => rfl

theorem start_behind (c : Char) : (s.behind n before).start c = (s.start c).behind n before := by
  obtain ⟨o, data, around, phase⟩ := s
  have haround : ((Scan.mk o data around phase).behind n before).around = around := rfl
  simp only [start, apply_ite (behind n before), haround]
  split_ifs
  · rfl
  · rfl
  · rfl
  · rfl
  · rfl
  · rfl
  · cases around with
    | nil => rfl
    | cons e outer =>
      cases e with
      | quote => rfl
      | list items => exact complete_behind n before (Scan.mk o data _ phase) _ (o + 1) outer
  · rfl

theorem react_atom {s : Scan} {start : Nat} {chars : List Char} {c : Char}
    (h : s.phase = .atom start chars) (hc : isSymbolChar c = false) :
    s.react c = match Datum.ofAtom? chars.reverse with
      | some d => (s.complete d s.offset s.around).start c
      | none => s.fail (missing s.around) start := by
  cases hd : Datum.ofAtom? chars.reverse with
  | none => simp [react, h, hc, endAtom, hd, fail]
  | some d => simp [react, h, hc, endAtom, hd, complete]

/-- Only the fault of an escape looks back, at the character before it. -/
theorem react_behind (h : s.phase = .between ∨ 0 < s.offset) (c : Char) :
    (s.behind n before).react c = (s.react c).behind n before := by
  obtain ⟨o, data, around, phase⟩ := s
  cases phase with
  | between => exact start_behind n before _ c
  | atom start chars =>
    have hphase : ((Scan.mk o data around (.atom start chars)).behind n before).phase =
      .atom (n + start) chars := rfl
    by_cases hc : isSymbolChar c = true
    · simp only [react, behind, Phase.shift, if_pos hc]
    · rw [Bool.not_eq_true] at hc
      rw [react_atom hphase hc, react_atom rfl hc]
      cases Datum.ofAtom? chars.reverse with
      | none => rfl
      | some d =>
        dsimp only
        rw [← start_behind, ← complete_behind]
        rfl
  | string chars =>
    simp only [react, behind, Phase.shift]
    split_ifs
    · exact complete_behind n before (Scan.mk o data around (.string chars)) _ (o + 1) around
    · rfl
    · rfl
  | escape chars =>
    have hpositive : 0 < o := by
      rcases h with h | h
      · cases h
      · exact h
    simp only [react, behind, Phase.shift]
    cases Text.Quoted.unescape? c with
    | some x => rfl
    | none =>
      rw [Nat.add_sub_assoc hpositive]
      rfl
  | failed fault => rfl

theorem read_behind (h : s.phase = .between ∨ 0 < s.offset) (c : Char) :
    (s.behind n before).read c = (s.read c).behind n before := by
  rw [read, read, react_behind n before s h]
  rfl

theorem feed_behind (h : s.phase = .between ∨ 0 < s.offset) (text : List Char) :
    (s.behind n before).feed text = (s.feed text).behind n before := by
  induction text generalizing s with
  | nil => rfl
  | cons c text ih =>
    rw [feed_cons, feed_cons, read_behind n before s h, ih _ (.inr (Nat.succ_pos s.offset))]

theorem finish_behind : (s.behind n before).finish = s.finish.behind n before := by
  rw [finish, finish, endAtom_behind]
  obtain ⟨o, data, around, phase⟩ := s.endAtom
  cases phase with
  | between => cases around <;> rfl
  | _ => rfl

theorem fault?_behind : (s.behind n before).fault? = s.fault?.map (Fault.shift n) := by
  obtain ⟨o, data, around, phase⟩ := s
  cases phase <;> rfl

theorem trees_behind : trees (s.behind n before).data = trees before ++ trees s.data := by
  simp [trees, behind, Function.comp_def]

end Scan

section

variable {start text : List Char} {data : List (Datum × Nat)} {s : Scan}

theorem scan_append (hphase : s.phase = .between)
    (h : Scan.initial.feed start = s.behind start.length data) (text : List Char) :
    scan (start ++ text) = (s.feed text).finish.behind start.length data := by
  rw [scan, Scan.feed_append, h, Scan.feed_behind _ _ _ (.inl hphase), Scan.finish_behind]

theorem readAll_append_of_fault?_eq_none (hphase : s.phase = .between)
    (h : Scan.initial.feed start = s.behind start.length data)
    (htext : (s.feed text).finish.fault? = none) :
    Datum.readAll (start ++ text) = .ok (trees data ++ trees (s.feed text).finish.data) := by
  rw [readAll_eq_ok_iff_accepts]
  have hscan : (Scan.initial.feed (start ++ text)).finish =
    (s.feed text).finish.behind start.length data := scan_append hphase h text
  rw [Scan.Accepts, hscan, Scan.fault?_behind, htext, Scan.trees_behind]
  exact ⟨rfl, rfl⟩

theorem readAll_append_of_fault?_eq_some (hphase : s.phase = .between)
    (h : Scan.initial.feed start = s.behind start.length data) {fault : Fault}
    (htext : (s.feed text).finish.fault? = some fault) :
    ∃ e, Datum.readAll (start ++ text) = .error e ∧ e.kind = (fault.report text).kind := by
  have hshift : (scan (start ++ text)).fault? = some (fault.shift start.length) := by
    rw [scan_append hphase h, Scan.fault?_behind, htext, Option.map_some]
  exact ⟨_, Datum.readAll_of_fault hshift, fault.kind_report_shift start text⟩

theorem readAll_append_of_ok
    (h : Scan.initial.feed start = Scan.initial.behind start.length data) {ds : List Datum}
    (htext : Datum.readAll text = .ok ds) :
    Datum.readAll (start ++ text) = .ok (trees data ++ ds) := by
  rw [readAll_eq_ok_iff_accepts] at htext
  obtain ⟨hfault, rfl⟩ := htext
  exact readAll_append_of_fault?_eq_none rfl h hfault

theorem readAll_append_of_error
    (h : Scan.initial.feed start = Scan.initial.behind start.length data) {e : SyntaxError}
    (htext : Datum.readAll text = .error e) :
    ∃ e', Datum.readAll (start ++ text) = .error e' ∧ e'.kind = e.kind := by
  obtain ⟨fault, hfault, rfl⟩ := Datum.exists_fault htext
  exact readAll_append_of_fault?_eq_some rfl h hfault

theorem feed_concat_newline {ds : List Datum} (h : Datum.readAll start = .ok ds) :
    ∃ data, Scan.initial.feed (start ++ ['\n']) =
      Scan.initial.behind (start ++ ['\n']).length data ∧ trees data = ds := by
  rw [readAll_eq_ok_iff_accepts] at h
  obtain ⟨hfault, rfl⟩ := h
  obtain ⟨hfinish, hread⟩ := Scan.finish_of_fault?_eq_none hfault
  refine ⟨_, ?_, rfl⟩
  rw [Scan.feed_append, Scan.feed_cons, Scan.feed_nil, hread '\n' (by decide), hfinish,
    Scan.offset_initial_feed, Scan.read_newline, List.length_append]
  rfl

end

/-- Reading is local across the ends of lines. Behind a text that can be read and the end of its
last line, another text is read as on its own: its data follow those of the first text, or the whole
fails in the way the other text does, whether or not comments are recognised. -/
theorem reading_local_across_lines {comments : Bool} {source : String} {ds : List Datum}
    (h : Datum.readAll (readable comments source) = .ok ds) :
    (∀ more ds', Datum.readAll (readable comments more) = .ok ds' →
      Datum.readAll (readable comments (source ++ "\n" ++ more)) = .ok (ds ++ ds')) ∧
    ∀ more e, Datum.readAll (readable comments more) = .error e →
      ∃ e', Datum.readAll (readable comments (source ++ "\n" ++ more)) = .error e' ∧
        e'.kind = e.kind := by
  obtain ⟨data, hfeed, rfl⟩ := feed_concat_newline h
  rw [← readable_concat_newline] at hfeed
  have hphase : (Scan.initial.feed (readable comments (source ++ "\n"))).phase = .between := by
    rw [hfeed]
    rfl
  refine ⟨fun more ds' hmore => ?_, fun more e hmore => ?_⟩
  · rw [readable_append_of_between hphase]
    exact readAll_append_of_ok hfeed hmore
  · rw [readable_append_of_between hphase]
    exact readAll_append_of_error hfeed hmore

theorem reading_local_across_lines_comment :
    Datum.readAll (readable true ("(a \"b\n;\") ; (" ++ "\n" ++ "'c")) =
      .ok ([.list [.sym "a", .str "b\n;"]] ++ [.list [.sym "quote", .sym "c"]]) ∧
    ∃ e, Datum.readAll (readable true ("(a \"b\n;\") ; (" ++ "\n" ++ "#q")) = .error e ∧
      e.kind = .invalid := by
  have h : Datum.readAll (readable true "(a \"b\n;\") ; (") =
    .ok [.list [.sym "a", .str "b\n;"]] := rfl
  have hmore : Datum.readAll (readable true "'c") = .ok [.list [.sym "quote", .sym "c"]] := rfl
  have hrefused : Datum.readAll (readable true "#q") =
    .error ((Fault.mk .noDatum 0).report "#q".toList) := rfl
  have hkind : ((Fault.mk .noDatum 0).report "#q".toList).kind = .invalid := rfl
  obtain ⟨hok, herror⟩ := reading_local_across_lines h
  refine ⟨hok _ _ hmore, ?_⟩
  rw [← hkind]
  exact herror _ _ hrefused

end CallByName
