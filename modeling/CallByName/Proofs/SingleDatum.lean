import CallByName.Proofs.Loading
import Mathlib.Data.List.TakeWhile

/-! Reading exactly one datum. The position kept with a datum tells what stands behind it, so one
datum is taken from a text just if all of the text reads as that datum. -/

namespace CallByName

open Grammar

namespace Scan

def AtRest (s : Scan) : Prop := s.phase = .between ∧ s.around = []

/-- Nothing but separators has been read behind a datum just if it is the latest and nothing has
begun since. -/
def Marks (text : List Char) (s : Scan) : Prop :=
  ∀ newer d stop older, s.data = newer ++ (d, stop) :: older →
    stop ≤ text.length ∧ (Blanks (text.drop stop) ↔ newer = [] ∧ s.AtRest)

variable {o : Nat} {data : List (Datum × Nat)} {around : List Enclosure} {s s' : Scan} {c : Char}
  {text : List Char}

theorem not_atRest_of_phase {phase : Phase} (h : phase ≠ .between) :
    ¬ (Scan.mk o data around phase).AtRest := fun hrest => h hrest.1

theorem not_atRest_of_around {e : Enclosure} {phase : Phase} :
    ¬ (Scan.mk o data (e :: around) phase).AtRest := fun hrest => nomatch hrest.2

theorem Marks.of_data_eq (h : s.Marks text) (hdata : s'.data = s.data)
    (hrest : s'.AtRest ↔ s.AtRest ∧ Text.isSeparator c = true) : s'.Marks (text ++ [c]) := by
  intro newer d stop older hs
  obtain ⟨hle, hiff⟩ := h newer d stop older (hdata ▸ hs)
  refine ⟨?_, ?_⟩
  · rw [List.length_append]
    exact Nat.le_add_right_of_le hle
  · rw [List.drop_append_of_le_length hle, Blanks, List.forall_mem_append,
      List.forall_mem_singleton, hrest, ← and_assoc]
    exact and_congr_left fun _ => hiff

theorem Marks.of_not_atRest (h : s.Marks text) (hs : ¬ s.AtRest) (hdata : s'.data = s.data)
    (hs' : ¬ s'.AtRest) : s'.Marks (text ++ [c]) :=
  h.of_data_eq hdata (iff_of_false hs' fun hrest => hs hrest.1)

theorem Marks.finish_of_not_atRest (h : s.Marks text) (hs : ¬ s.AtRest) (hdata : s'.data = s.data)
    (hs' : ¬ s'.AtRest) : s'.Marks text := by
  intro newer d stop older hdata'
  obtain ⟨hle, hiff⟩ := h newer d stop older (hdata ▸ hdata')
  exact ⟨hle, hiff.trans (iff_of_false (fun hrest => hs hrest.2) fun hrest => hs' hrest.2)⟩

theorem Marks.delivered (h : s.Marks text) (hs : ¬ s.AtRest) (d : Datum)
    (around : List Enclosure) : (delivered d text.length around s.data).Marks text := by
  induction around generalizing d with
  | nil =>
    intro newer d' stop older hdata
    cases newer with
    | nil =>
      cases hdata
      refine ⟨Nat.le_refl _, iff_of_true ?_ ⟨rfl, rfl, rfl⟩⟩
      rw [List.drop_length]
      exact List.forall_mem_nil _
    | cons latest newer =>
      obtain ⟨hle, hiff⟩ := h newer d' stop older (List.cons.inj hdata).2
      refine ⟨hle, iff_of_false (fun hblank => ?_) fun hnil => nomatch hnil.1⟩
      exact hs (hiff.1 hblank).2
  | cons e around ih =>
    cases e with
    | quote => exact ih _
    | list items => exact h.finish_of_not_atRest hs rfl not_atRest_of_around

theorem marks_read_between (h : (Scan.mk text.length data around .between).Marks text) :
    ((Scan.mk text.length data around .between).read c).Marks (text ++ [c]) := by
  have hstart := starts_read text.length data around c
  generalize (Scan.mk text.length data around .between).read c = s at hstart
  have hother {s' : Scan} (hseparator : Text.isSeparator c = false) (hdata : s'.data = data)
      (hs' : ¬ s'.AtRest) : s'.Marks (text ++ [c]) := by
    refine h.of_data_eq hdata (iff_of_false hs' fun hrest => ?_)
    exact absurd hrest.2 (Bool.eq_false_iff.1 hseparator)
  cases hstart with
  | separator hc => exact h.of_data_eq rfl ⟨fun hrest => ⟨hrest, hc⟩, fun hrest => hrest.1⟩
  | quote => exact hother rfl rfl not_atRest_of_around
  | opening => exact hother rfl rfl not_atRest_of_around
  | string => exact hother rfl rfl (not_atRest_of_phase (by simp))
  | atom _ hc => exact hother (ne_of_startsAtom hc).1 rfl (not_atRest_of_phase (by simp))
  | closing =>
    have hmarks : (Scan.mk text.length data (.list _ :: _) .between).Marks (text ++ [')']) :=
      h.of_not_atRest not_atRest_of_around rfl not_atRest_of_around
    have hlength : text.length + 1 = (text ++ [')']).length := by rw [List.length_append]; rfl
    rw [hlength]
    exact hmarks.delivered not_atRest_of_around _ _
  | failed hseparator => exact hother hseparator rfl (not_atRest_of_phase (by simp))

theorem marks_read (hoffset : s.offset = text.length) (h : s.Marks text) (c : Char) :
    (s.read c).Marks (text ++ [c]) := by
  have hlength : text.length + 1 = (text ++ [c]).length := by rw [List.length_append]; rfl
  obtain ⟨o, data, around, phase⟩ := s
  dsimp only at hoffset
  subst hoffset
  cases phase with
  | between => exact marks_read_between h
  | atom start chars =>
    have hatom : ¬ (Scan.mk text.length data around (.atom start chars)).AtRest :=
      not_atRest_of_phase (by simp)
    by_cases hc : isSymbolChar c = true
    · rw [read_atom_more hc]
      exact h.of_not_atRest hatom rfl (not_atRest_of_phase (by simp))
    · rw [Bool.not_eq_true] at hc
      cases hd : Datum.ofAtom? chars.reverse with
      | none =>
        have hread : (Scan.mk text.length data around (.atom start chars)).read c =
            ⟨text.length + 1, data, around, .failed ⟨missing around, start⟩⟩ := by
          simp [read, react, hc, endAtom, hd, fail]
        rw [hread]
        exact h.of_not_atRest hatom rfl (not_atRest_of_phase (by simp))
      | some d =>
        rw [read_atom_some hd hc]
        exact marks_read_between (h.delivered hatom d around)
  | string chars =>
    have hstring : ¬ (Scan.mk text.length data around (.string chars)).AtRest :=
      not_atRest_of_phase (by simp)
    by_cases hquote : c = '"'
    · subst hquote
      rw [read_string_quote, hlength]
      exact (h.of_not_atRest hstring rfl hstring).delivered hstring _ _
    by_cases hbackslash : c = '\\'
    · subst hbackslash
      have hescape : ¬ (Scan.mk (text.length + 1) data around (.escape chars)).AtRest :=
        not_atRest_of_phase (by simp)
      exact h.of_not_atRest hstring rfl hescape
    · rw [read_string_plain hquote hbackslash]
      exact h.of_not_atRest hstring rfl (not_atRest_of_phase (by simp))
  | escape chars =>
    have hescape : ¬ (Scan.mk text.length data around (.escape chars)).AtRest :=
      not_atRest_of_phase (by simp)
    cases hc : Text.Quoted.unescape? c with
    | none =>
      have hread : (Scan.mk text.length data around (.escape chars)).read c =
          ⟨text.length + 1, data, around, .failed ⟨.noDatum, text.length - 1⟩⟩ := by
        simp [read, react, hc, fail]
      rw [hread]
      exact h.of_not_atRest hescape rfl (not_atRest_of_phase (by simp))
    | some x =>
      rw [read_escape_some hc]
      exact h.of_not_atRest hescape rfl (not_atRest_of_phase (by simp))
  | failed fault =>
    have hfailed : ¬ (Scan.mk text.length data around (.failed fault)).AtRest :=
      not_atRest_of_phase (by simp)
    exact h.of_not_atRest hfailed rfl hfailed

theorem marks_feed_of_marks (hoffset : s.offset = text.length) (h : s.Marks text)
    (more : List Char) : (s.feed more).Marks (text ++ more) := by
  induction more generalizing s text with
  | nil =>
    rw [List.append_nil]
    exact h
  | cons c more ih =>
    rw [feed_cons, List.append_cons]
    apply ih
    · rw [offset_read, hoffset, List.length_append, List.length_singleton]
    · exact marks_read hoffset h c

theorem marks_finish (hoffset : s.offset = text.length) (h : s.Marks text) :
    s.finish.Marks text := by
  have hbetween {data : List (Datum × Nat)} {around : List Enclosure}
      (h : (Scan.mk text.length data around .between).Marks text) :
      (Scan.mk text.length data around .between).finish.Marks text := by
    cases around with
    | nil => exact h
    | cons e around =>
      exact h.finish_of_not_atRest not_atRest_of_around rfl (not_atRest_of_phase (by simp))
  obtain ⟨o, data, around, phase⟩ := s
  dsimp only at hoffset
  subst hoffset
  cases phase with
  | between => exact hbetween h
  | atom start chars =>
    have hatom : ¬ (Scan.mk text.length data around (.atom start chars)).AtRest :=
      not_atRest_of_phase (by simp)
    cases hd : Datum.ofAtom? chars.reverse with
    | none =>
      have hfinish : (Scan.mk text.length data around (.atom start chars)).finish =
          ⟨text.length, data, around, .failed ⟨missing around, start⟩⟩ := by
        simp [finish, endAtom, hd, fail]
      rw [hfinish]
      exact h.finish_of_not_atRest hatom rfl (not_atRest_of_phase (by simp))
    | some d =>
      rw [finish_atom hd]
      exact hbetween (h.delivered hatom d around)
  | string chars =>
    exact h.finish_of_not_atRest (not_atRest_of_phase (by simp)) rfl (not_atRest_of_phase (by simp))
  | escape chars =>
    exact h.finish_of_not_atRest (not_atRest_of_phase (by simp)) rfl (not_atRest_of_phase (by simp))
  | failed fault => exact h

theorem marks_scan (text : List Char) : (scan text).Marks text := by
  have hinitial : initial.Marks [] := by
    intro newer d stop older hdata
    cases newer <;> cases hdata
  exact marks_finish (offset_initial_feed text) (marks_feed_of_marks rfl hinitial text)

end Scan

theorem dropWhile_isSeparator_eq_nil_iff {text : List Char} :
    text.dropWhile Text.isSeparator = [] ↔ Blanks text := List.dropWhile_eq_nil_iff

theorem not_all_isBlank_of_readAll {text : List Char} {d : Datum} {ds : List Datum}
    (h : Datum.readAll text = .ok (d :: ds)) : text.all Text.isBlank = false := by
  rw [Bool.eq_false_iff]
  intro hblank
  have hprogram : IsProgram (text ++ []) (d :: ds) := by
    rw [List.append_nil]
    exact readAll_eq_ok_iff_isProgram.1 h
  have hnil : Continues [] [] (d :: ds) :=
    isProgram_of_append (List.all_eq_true.1 hblank) hprogram
  cases (continues_nil.1 hnil).2

theorem readOne_eq_ok_iff {text : List Char} {d : Datum} :
    Datum.readOne text = .ok d ↔ Datum.readAll text = .ok [d] := by
  have hmarks := Scan.marks_scan text
  constructor
  · intro h
    rw [Datum.readOne] at h
    split at h
    · cases h
    · dsimp only at h
      split at h
      · rename_i d' stop hlast
        split at h
        · rename_i hnone
          cases h
          obtain ⟨newer, hdata⟩ := List.getLast?_eq_some_iff.1 hlast
          obtain ⟨-, hiff⟩ := hmarks newer d stop [] hdata
          obtain ⟨rfl, hrest⟩ := hiff.1 (dropWhile_isSeparator_eq_nil_iff.1 hnone)
          simp [Datum.readAll, Scan.fault?, hrest.1, hdata]
        · cases h
      · cases h
      · cases h
  · intro h
    have hblank := not_all_isBlank_of_readAll h
    obtain ⟨hfault, htrees⟩ := readAll_eq_ok_iff_accepts.1 h
    have hfinish := (Scan.finish_of_fault?_eq_none hfault).1
    obtain ⟨⟨d', stop⟩, hdata, hd⟩ := List.map_eq_singleton_iff.1 htrees
    rw [List.reverse_eq_iff, List.reverse_singleton] at hdata
    obtain rfl : d' = d := hd
    obtain ⟨-, hiff⟩ := hmarks [] d' stop [] hdata
    have hrest : (scan text).AtRest := by
      rw [scan, hfinish]
      exact ⟨rfl, rfl⟩
    have hseparators := dropWhile_isSeparator_eq_nil_iff.2 (hiff.2 ⟨rfl, hrest⟩)
    have hscan : (scan text).data = [(d', stop)] := hdata
    simp [Datum.readOne, hblank, hscan, hseparators]

end CallByName
