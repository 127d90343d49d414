import Mathlib.Data.List.Forall2
import Mathlib.Data.List.Nodup

/-! Lists of bindings, in which the first binding of a name counts. -/

namespace CallByName

open List (Forall₂)

theorem lookup_eq_none_iff_notMem {β : Type} {bs : List (String × β)} {x : String} :
    bs.lookup x = none ↔ x ∉ bs.map Prod.fst := by
  rw [List.lookup_eq_none_iff]
  simp only [List.mem_map, not_exists, not_and, bne_iff_ne]
  exact ⟨fun h b hb hx => h b hb hx.symm, fun h b hb hx => h b hb hx.symm⟩

theorem lookup_rel {β γ : Type} {R : β → γ → Prop} {bs : List (String × β)}
    {cs : List (String × γ)} (h : Forall₂ (fun b c => b.1 = c.1 ∧ R b.2 c.2) bs cs) (x : String) :
    Option.Rel R (bs.lookup x) (cs.lookup x) := by
  induction h with
  | nil => exact .none
  | @cons b c bs cs h _ ih =>
    rw [List.lookup_cons, List.lookup_cons, ← h.1]
    split
    · exact .some h.2
    · exact ih

theorem lookup_map_snd {β γ : Type} (f : β → γ) (bs : List (String × β)) (x : String) :
    (bs.map fun b => (b.1, f b.2)).lookup x = (bs.lookup x).map f := by
  induction bs with
  | nil => rfl
  | cons b bs ih =>
    rw [List.map_cons, List.lookup_cons, List.lookup_cons, ih]
    split <;> rfl

theorem mem_of_lookup {β : Type} {bs : List (String × β)} {x : String} {b : β}
    (h : bs.lookup x = some b) : (x, b) ∈ bs := by
  obtain ⟨l₁, l₂, rfl, -⟩ := List.lookup_eq_some_iff.1 h
  simp

theorem lookup_eq_some_iff_mem {β : Type} {bs : List (String × β)} {x : String} {b : β}
    (hnames : (bs.map Prod.fst).Nodup) : bs.lookup x = some b ↔ (x, b) ∈ bs := by
  refine ⟨mem_of_lookup, fun h => ?_⟩
  obtain ⟨before, after, rfl⟩ := List.append_of_mem h
  rw [List.map_append, List.map_cons, List.nodup_middle, List.nodup_cons] at hnames
  have hbefore : before.lookup x = none := by
    rw [lookup_eq_none_iff_notMem]
    exact fun hx => hnames.1 (List.mem_append_left _ hx)
  rw [List.lookup_append, hbefore, Option.none_or, List.lookup_cons_self]

theorem lookup_eq_of_perm {β : Type} {bs cs : List (String × β)} (h : bs.Perm cs)
    (hnames : (bs.map Prod.fst).Nodup) (x : String) : bs.lookup x = cs.lookup x := by
  have hnames' : (cs.map Prod.fst).Nodup := (h.map Prod.fst).nodup_iff.1 hnames
  refine Option.ext fun b => ?_
  rw [lookup_eq_some_iff_mem hnames, lookup_eq_some_iff_mem hnames', h.mem_iff]

theorem forall₂_zip_left {β γ : Type} {R : β → γ → Prop} (xs : List String) {bs : List β}
    {cs : List γ} (h : Forall₂ R bs cs) :
    Forall₂ (fun b c => b.1 = c.1 ∧ R b.2 c.2) (xs.zip bs) (xs.zip cs) := by
  induction h generalizing xs with
  | nil => simp
  | cons h _ ih =>
    cases xs with
    | nil => exact .nil
    | cons x xs => exact .cons ⟨rfl, h⟩ (ih xs)

theorem lookup_zip_congr {β : Type} {names : List String} {as bs : List β} {x : String}
    (ha : as.length = names.length) (hb : bs.length = names.length)
    (h : ∀ i, names[i]? = some x → as[i]? ≠ bs[i]? → x ∈ names.take i) :
    (names.zip as).lookup x = (names.zip bs).lookup x := by
  induction names generalizing as bs with
  | nil => rfl
  | cons y names ih =>
    obtain ⟨a, as, rfl⟩ := List.exists_cons_of_length_eq_add_one ha
    obtain ⟨b, bs, rfl⟩ := List.exists_cons_of_length_eq_add_one hb
    rw [List.zip_cons_cons, List.zip_cons_cons, List.lookup_cons, List.lookup_cons]
    by_cases hxy : x = y
    -- Nothing comes before the first name, so there the lists have to be the same.
    · subst hxy
      have hab : a = b := by
        by_contra hne
        simpa using h 0 (by simp) (by simpa using hne)
      rw [hab, beq_self_eq_true]
    · rw [beq_false_of_ne hxy]
      apply ih (Nat.succ.inj ha) (Nat.succ.inj hb)
      intro i hi hne
      have hmem := h (i + 1) hi hne
      rw [List.take_succ_cons, List.mem_cons] at hmem
      exact hmem.resolve_left hxy

end CallByName
