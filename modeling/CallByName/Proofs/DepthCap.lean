import CallByName.Proofs.Delivery
import CallByName.Proofs.Writing

/-! How deep data may lie. The text of a datum is read back if nothing in it lies too deep, and is
refused for its depth otherwise; and what is read never lies too deep. -/

namespace CallByName

open Grammar

namespace Grammar

mutual

theorem IsDatum.fitsAt : {depth : Nat} → {text : List Char} → {d : Datum} → {rest : List Char} →
    IsDatum depth text d rest → d.FitsAt depth
  | _, _, _, _, .quote _ _ h => ⟨Nat.le_of_succ_le_succ h.depth_le, h.depth_le, h.fitsAt, trivial⟩
  | _, _, _, _, .list hdepth h _ => ⟨hdepth, h.fitsAt⟩
  | _, _, _, _, .string hdepth _ => hdepth
  | _, _, _, _, .atom hdepth h _ => by
    cases h <;> exact hdepth

theorem AreData.fitsAt : {depth : Nat} → {text : List Char} → {ds : List Datum} →
    {rest : List Char} → AreData depth text ds rest → Datum.AllFitAt depth ds
  | _, _, _, _, .nil => trivial
  | _, _, _, _, .cons _ h hs => ⟨h.fitsAt, hs.fitsAt⟩

end

end Grammar

namespace Datum

theorem toList_text_str (s : String) : (str s).text.toList =
    '"' :: (s.toList.flatMap Text.Quoted.escape ++ ['"']) := by
  rw [text, Text.Quoted.text, String.toList_ofList]
  rfl

theorem toList_text_list (items : List Datum) : (list items).text.toList =
    '(' :: ((" ".intercalate (texts items)).toList ++ [')']) := by
  rw [text, String.toList_append, String.toList_append]
  rfl

theorem toList_intercalate_singleton (d : Datum) :
    (" ".intercalate (texts [d])).toList = d.text.toList := by
  rw [texts, texts, String.intercalate_singleton]

theorem toList_intercalate_cons_cons (d e : Datum) (ds : List Datum) :
    (" ".intercalate (texts (d :: e :: ds))).toList =
      d.text.toList ++ ' ' :: (" ".intercalate (texts (e :: ds))).toList := by
  simp only [texts, String.intercalate_cons_cons, String.toList_append, List.append_assoc]
  rfl

theorem exists_head {d : Datum} (h : d.WellSpelled) :
    ∃ c tail, d.text.toList = c :: tail ∧ Text.isSeparator c = false := by
  have hatom {cs : List Char} (h : Atom cs d) : ∃ c tail, cs = c :: tail ∧
      Text.isSeparator c = false := by
    obtain ⟨c, tail, rfl, hc, -⟩ := h.shape
    exact ⟨c, tail, rfl, (ne_of_startsAtom hc).1⟩
  cases d with
  | num n => exact hatom (atom_number n)
  | bool b => exact hatom (atom_bool b)
  | sym x => exact hatom (atom_symbol h)
  | str s => exact ⟨_, _, toList_text_str s, by decide⟩
  | list items => exact ⟨_, _, toList_text_list items, by decide⟩

end Datum

namespace Scan

variable {data : List (Datum × Nat)}

theorem tooDeep_of_head {d : Datum} (hd : d.WellSpelled) {around : List Enclosure}
    (hdeep : maxNesting ≤ around.length) (o : Nat) (rest : List Char) :
    ∃ offset, ((Scan.mk o data around .between).feed (d.text.toList ++ rest)).phase =
      .failed ⟨.tooDeep, offset⟩ := by
  obtain ⟨c, tail, htext, hc⟩ := Datum.exists_head hd
  rw [htext, List.cons_append, feed_cons]
  exact ⟨o, feed_of_failed (read_tooDeep hdeep hc) _⟩

mutual

theorem tooDeep_of_text : (d : Datum) → d.WellSpelled → {around : List Enclosure} →
    ¬ d.FitsAt around.length → (o : Nat) → (rest : List Char) →
    ∃ offset, ((Scan.mk o data around .between).feed (d.text.toList ++ rest)).phase =
      .failed ⟨.tooDeep, offset⟩
  | .list items, hitems, around, hdeep, o, rest => by
    by_cases hroom : around.length ≤ 63
    · rw [Datum.toList_text_list, List.cons_append, List.append_assoc, feed_cons,
        read_opening hroom]
      exact tooDeep_of_texts items hitems hdeep (o + 1) rest
    · exact tooDeep_of_head hitems (Nat.lt_of_not_le hroom) o rest
  | .num n, hd, _, hdeep, o, rest => tooDeep_of_head hd (Nat.lt_of_not_le hdeep) o rest
  | .bool b, hd, _, hdeep, o, rest => tooDeep_of_head hd (Nat.lt_of_not_le hdeep) o rest
  | .str s, hd, _, hdeep, o, rest => tooDeep_of_head hd (Nat.lt_of_not_le hdeep) o rest
  | .sym x, hd, _, hdeep, o, rest => tooDeep_of_head hd (Nat.lt_of_not_le hdeep) o rest

theorem tooDeep_of_texts : (ds : List Datum) → Datum.AllWellSpelled ds →
    {around : List Enclosure} → {items : List Datum} →
    ¬ (around.length ≤ 62 ∧ Datum.AllFitAt (around.length + 1) ds) → (o : Nat) →
    (rest : List Char) → ∃ offset, ((Scan.mk o data (.list items :: around) .between).feed
      ((" ".intercalate (Datum.texts ds)).toList ++ ')' :: rest)).phase =
      .failed ⟨.tooDeep, offset⟩
  | [], _, around, items, hdeep, o, rest => by
    have hroom : ¬ around.length ≤ 62 := fun hroom => hdeep ⟨hroom, trivial⟩
    have hfull : maxNesting ≤ (Enclosure.list items :: around).length :=
      Nat.succ_le_succ (Nat.lt_of_not_le hroom)
    exact ⟨o, feed_of_failed (read_tooDeep hfull (by decide)) rest⟩
  | [d], ⟨hd, _⟩, around, items, hdeep, o, rest => by
    have hd' : ¬ d.FitsAt (Enclosure.list items :: around).length := fun hfits =>
      hdeep ⟨Nat.le_of_succ_le_succ hfits.level_le, hfits, trivial⟩
    rw [Datum.toList_intercalate_singleton]
    exact tooDeep_of_text d hd hd' o _
  | d :: e :: ds, ⟨hd, hds⟩, around, items, hdeep, o, rest => by
    rw [Datum.toList_intercalate_cons_cons, List.append_assoc]
    by_cases hfits : d.FitsAt (Enclosure.list items :: around).length
    · have hds' : ¬ (around.length ≤ 62 ∧ Datum.AllFitAt (around.length + 1) (e :: ds)) :=
        fun hfit => hdeep ⟨hfit.1, hfits, hfit.2⟩
      -- An item that fits is delivered into the list, and the fault lies behind it.
      have hspells := Datum.spells_text d hd hfits (' ' :: ((" ".intercalate
        (Datum.texts (e :: ds))).toList ++ ')' :: rest)) (endsAtom_cons (by decide) _)
      obtain ⟨stop, hfeed⟩ := feed_of_isDatum hspells rfl (List.cons_ne_nil _ _) o
      rw [List.cons_append, hfeed, feed_cons]
      exact tooDeep_of_texts (e :: ds) hds hds' (stop + 1) rest
    · exact tooDeep_of_text d hd hfits o _

end

end Scan

namespace Comment

theorem absent_singleton {c : Char} (hcomment : c ≠ ';') (hstring : c ≠ '"') : Absent [c] :=
  absent_of_plain (List.forall_mem_singleton.2 ⟨hcomment, hstring⟩)

theorem absent_atom {text : List Char} {d : Datum} (h : Atom text d) : Absent text := by
  obtain ⟨c, tail, rfl, hc, htail⟩ := h.shape
  have hplain {x : Char} (hx : x = '#' ∨ isSymbolChar x = true) : x ≠ ';' ∧ x ≠ '"' := by
    refine ⟨?_, (ne_of_startsAtom hx).2.2.2.1⟩
    rintro rfl
    exact absurd hx (by decide)
  exact absent_of_plain (List.forall_mem_cons.2 ⟨hplain hc, fun x hx => hplain (.inr (htail x hx))⟩)

theorem blankFrom_escaped (chars rest : List Char) :
    blankFrom .string (chars.flatMap Text.Quoted.escape ++ '"' :: rest) =
      chars.flatMap Text.Quoted.escape ++ '"' :: blankFrom .code rest := by
  induction chars with
  | nil => rfl
  | cons c chars ih =>
    rw [List.flatMap_cons, List.append_assoc, List.append_assoc]
    obtain ⟨hplain, hquote, hbackslash⟩ | ⟨e, hescaped, -⟩ := Text.Quoted.escape_cases c
    · rw [hplain, ← ih, List.singleton_append, blankFrom, Region.next, if_neg hbackslash,
        if_neg hquote]
      rfl
    · rw [hescaped, ← ih]
      rfl

mutual

theorem absent_text : (d : Datum) → d.WellSpelled → Absent d.text.toList
  | .num n, _ => absent_atom (atom_number n)
  | .bool b, _ => absent_atom (atom_bool b)
  | .sym _, h => absent_atom (atom_symbol h)
  | .str s, _ => by
    intro rest
    have hstring := blankFrom_escaped s.toList rest
    rw [Datum.toList_text_str]
    simp only [List.cons_append, List.append_assoc, List.nil_append]
    exact congrArg ('"' :: ·) hstring
  | .list items, h => by
    have hopen : Absent ['('] := absent_singleton (by decide) (by decide)
    have hclose : Absent [')'] := absent_singleton (by decide) (by decide)
    rw [Datum.toList_text_list]
    exact hopen.append ((absent_texts items h).append hclose)

theorem absent_texts : (ds : List Datum) → Datum.AllWellSpelled ds →
    Absent (" ".intercalate (Datum.texts ds)).toList
  | [], _ => fun _ => rfl
  | [d], ⟨hd, _⟩ => by
    rw [Datum.toList_intercalate_singleton]
    exact absent_text d hd
  | d :: e :: ds, ⟨hd, hds⟩ => by
    have hspace : Absent [' '] := absent_singleton (by decide) (by decide)
    rw [Datum.toList_intercalate_cons_cons]
    exact (absent_text d hd).append (hspace.append (absent_texts (e :: ds) hds))

end

end Comment

namespace Datum

variable {d : Datum}

theorem readAll_text_of_fitsAt (hd : d.WellSpelled) (hfits : d.FitsAt 0) (comments : Bool) :
    readAll (readable comments d.text) = .ok [d] :=
  readAll_of_spells (d.spells_text hd hfits) comments

theorem readAll_text_of_not_fitsAt (hd : d.WellSpelled) (hdeep : ¬ d.FitsAt 0) (comments : Bool) :
    ∃ e, readAll (readable comments d.text) = .error e ∧ e.kind = .tooDeep := by
  have hdeep : ¬ d.FitsAt ([] : List Enclosure).length := hdeep
  have hfailed : ∃ offset, (Scan.initial.feed (d.text.toList ++ [])).phase =
    .failed ⟨.tooDeep, offset⟩ := Scan.tooDeep_of_text d hd hdeep 0 []
  obtain ⟨offset, hphase⟩ := hfailed
  rw [List.append_nil] at hphase
  have hfault : (scan d.text.toList).fault? = some ⟨.tooDeep, offset⟩ :=
    Scan.fault?_finish_feed_of_failed hphase []
  rw [(Comment.absent_text d hd).readable_eq]
  exact ⟨_, readAll_of_fault hfault, Fault.kind_report _ _⟩

theorem fitsAt_of_readAll {text : List Char} {ds : List Datum} (h : readAll text = .ok ds) :
    ∀ d ∈ ds, d.WellSpelled ∧ d.FitsAt 0 := by
  intro d hd
  obtain ⟨_, -, hdata⟩ := readAll_eq_ok_iff_isProgram.1 h
  exact ⟨allWellSpelled_iff.1 hdata.wellSpelled d hd, allFitAt_iff.1 hdata.fitsAt d hd⟩

def nested : Nat → Datum → Datum
  | 0, d => d
  | n + 1, d => .list [nested n d]

theorem fitsAt_nested {n level : Nat} : (nested n d).FitsAt level ↔ d.FitsAt (level + n) := by
  induction n generalizing level with
  | zero => exact Iff.rfl
  | succ n ih =>
    rw [nested, FitsAt, AllFitAt, AllFitAt, ih, and_true, Nat.add_assoc, Nat.add_comm 1]
    refine and_iff_right_of_imp fun h => ?_
    have := h.level_le
    omega

theorem wellSpelled_nested {n : Nat} (hd : d.WellSpelled) : (nested n d).WellSpelled := by
  induction n with
  | zero => exact hd
  | succ n ih => exact ⟨ih, trivial⟩

end Datum

/-- The text of a datum that is spelled as such is read back, whether or not comments are
recognised, if every list in it lies at level 62 at most and every atom at level 63 at most;
otherwise it is refused for its depth. All data that are read from any text are of the first
kind. -/
theorem datum_text_reads_back :
    (∀ (d : Datum) comments, d.WellSpelled →
      (d.FitsAt 0 → Datum.readAll (readable comments d.text) = .ok [d]) ∧
      (¬ d.FitsAt 0 →
        ∃ e, Datum.readAll (readable comments d.text) = .error e ∧ e.kind = .tooDeep)) ∧
    ∀ comments source ds, Datum.readAll (readable comments source) = .ok ds →
      ∀ d ∈ ds, d.WellSpelled ∧ d.FitsAt 0 ∧
        ∀ comments', Datum.readAll (readable comments' d.text) = .ok [d] := by
  refine ⟨fun d comments hd => ⟨fun hfits => ?_, fun hdeep => ?_⟩,
    fun comments source ds h d hd => ?_⟩
  · exact Datum.readAll_text_of_fitsAt hd hfits comments
  · exact Datum.readAll_text_of_not_fitsAt hd hdeep comments
  · obtain ⟨hspelled, hfits⟩ := Datum.fitsAt_of_readAll h d hd
    exact ⟨hspelled, hfits, Datum.readAll_text_of_fitsAt hspelled hfits⟩

theorem datum_text_reads_back_nested :
    (∀ comments, Datum.readAll (readable comments (Datum.nested 63 (.str ";\"\n")).text) =
      .ok [Datum.nested 63 (.str ";\"\n")]) ∧
    (∀ comments, ∃ e, Datum.readAll (readable comments (Datum.nested 63 (.list [])).text) =
      .error e ∧ e.kind = .tooDeep) ∧
    ∀ comments, Datum.readAll (readable comments (Datum.list [.sym "quote", .num (-1)]).text) =
      .ok [.list [.sym "quote", .num (-1)]] := by
  have hstring : (Datum.str ";\"\n").WellSpelled := trivial
  have hempty : (Datum.list []).WellSpelled := trivial
  have hroom : (Datum.nested 63 (.str ";\"\n")).FitsAt 0 :=
    Datum.fitsAt_nested.2 (Nat.le_refl 63)
  have hdeep : ¬ (Datum.nested 63 (.list [])).FitsAt 0 := fun h =>
    absurd (Datum.fitsAt_nested.1 h).1 (by decide)
  have hquote : Datum.readAll (readable true "'-1") = .ok [.list [.sym "quote", .num (-1)]] := rfl
  obtain ⟨htext, hread⟩ := datum_text_reads_back
  refine ⟨fun comments => ?_, fun comments => ?_, ?_⟩
  · exact (htext _ comments (Datum.wellSpelled_nested hstring)).1 hroom
  · exact (htext _ comments (Datum.wellSpelled_nested hempty)).2 hdeep
  · exact (hread _ _ _ hquote _ List.mem_cons_self).2.2

end CallByName
