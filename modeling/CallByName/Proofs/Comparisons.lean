import CallByName.Proofs.Arithmetic
import CallByName.Proofs.OperandCounts
import Mathlib.Data.List.Pairwise

/-! Comparisons of several operands. Only neighbours are compared, but the relations are transitive,
so the answer is about every two operands. The types of all operands are looked at before. -/

namespace CallByName

namespace Prim

section

variable {α : Type} {related : α → α → Bool} {R : α → α → Prop}

theorem chained_iff_isChain (h : ∀ a b, related a b = true ↔ R a b) (as : List α) :
    chained related as = true ↔ as.IsChain R := by
  induction as with
  | nil => exact iff_of_true rfl .nil
  | cons a as ih =>
    cases as with
    | nil => exact iff_of_true rfl (.singleton a)
    | cons b as => rw [chained, Bool.and_eq_true, h, ih, List.isChain_cons_cons]

theorem chained_iff_pairwise (h : ∀ a b, related a b = true ↔ R a b)
    (htrans : ∀ a b c, R a b → R b c → R a c) (as : List α) :
    chained related as = true ↔ as.Pairwise R := by
  have : Trans R R R := ⟨htrans _ _ _⟩
  rw [chained_iff_isChain h, List.isChain_iff_pairwise]

end

def relation? : Prim → Option (Int → Int → Prop)
  | numEq => some (· = ·)
  | lt => some (· < ·)
  | gt => some (· > ·)
  | le => some (· ≤ ·)
  | ge => some (· ≥ ·)
  | _ => none

section Relation

variable {op : Prim} {R : Int → Int → Prop} (hR : op.relation? = some R)

include hR

theorem trans_of_relation? (i j k : Int) (hij : R i j) (hjk : R j k) : R i k := by
  cases op with
  | numEq =>
    cases hR
    exact hij.trans hjk
  | lt =>
    cases hR
    exact Int.lt_trans hij hjk
  | gt =>
    cases hR
    exact Int.lt_trans hjk hij
  | le =>
    cases hR
    exact Int.le_trans hij hjk
  | ge =>
    cases hR
    exact Int.le_trans hjk hij
  | _ => cases hR

theorem exists_compare : ∃ related : Number → Number → Bool, op.run = compare related ∧
    ∀ a b, related a b = true ↔ R a.toInt b.toInt := by
  cases op with
  | numEq =>
    cases hR
    exact ⟨fun a b => a == b, rfl, fun a b => beq_iff_eq.trans Int64.toInt_inj.symm⟩
  | lt =>
    cases hR
    exact ⟨fun a b => a < b, rfl, fun a b => decide_eq_true_iff.trans Int64.lt_iff_toInt_lt⟩
  | gt =>
    cases hR
    exact ⟨fun a b => b < a, rfl, fun a b => decide_eq_true_iff.trans Int64.lt_iff_toInt_lt⟩
  | le =>
    cases hR
    exact ⟨fun a b => a ≤ b, rfl, fun a b => decide_eq_true_iff.trans Int64.le_iff_toInt_le⟩
  | ge =>
    cases hR
    exact ⟨fun a b => b ≤ a, rfl, fun a b => decide_eq_true_iff.trans Int64.le_iff_toInt_le⟩
  | _ => cases hR

end Relation

theorem run_of_find? {op : Prim} {c : Comparand} (hc : op.comparand? = some c) {args : List Value}
    {v : Value} (h : args.find? (fun v => !c.fits v) = some v) :
    op.run args = .error (c.refusal v.typeName) := by
  cases op with
  | numEq | lt | gt | le | ge =>
    cases hc
    rw [run, compare, Value.asks_number.mapM_of_find? h]
    rfl
  | stringEq =>
    cases hc
    rw [run, Value.asks_string.mapM_of_find? h]
    rfl
  | _ => cases hc

theorem run_map_num {op : Prim} {R : Int → Int → Prop} (hR : op.relation? = some R)
    (ns : List Number) : ∃ b, op.run (ns.map .num) = .ok (.bool b) ∧
      (b = true ↔ ns.Pairwise fun m n => R m.toInt n.toInt) := by
  obtain ⟨related, hrun, hrelated⟩ := exists_compare hR
  have htrans (m n k : Number) := trans_of_relation? hR m.toInt n.toInt k.toInt
  refine ⟨chained related ns, ?_, chained_iff_pairwise hrelated htrans ns⟩
  rw [hrun, compare, Value.asks_number.mapM_map]
  rfl

theorem run_map_str (ss : List String) : ∃ b, stringEq.run (ss.map .str) = .ok (.bool b) ∧
    (b = true ↔ ss.Pairwise Eq) := by
  have hsame (s t : String) : (s == t) = true ↔ s = t := beq_iff_eq
  refine ⟨chained (fun s t => s == t) ss, ?_, chained_iff_pairwise hsame (fun _ _ _ => Eq.trans) ss⟩
  rw [run, Value.asks_string.mapM_map]
  rfl

theorem pairwise_eq_iff {α : Type} {as : List α} :
    as.Pairwise Eq ↔ ∀ a ∈ as, ∀ b ∈ as, a = b := by
  constructor
  · intro h a ha b hb
    exact h.forall_of_forall (fun _ _ => rfl) ha hb
  · exact List.pairwise_of_forall_mem_list

/-- Comparisons decide their relation on the whole list of operands. Of two numbers or more the
answer is yes if every two of them are in the relation, the earlier one to the later one, neighbours
or not; of two strings or more, if they are all the same. But if there are operands of another type,
the leftmost one is reported, whatever the operands before it would have decided. -/
theorem comparisons_decide_throughout :
    (∀ (op : Prim) R, op.relation? = some R → ∀ ns : List Number, 2 ≤ ns.length →
      ∃ b, op.apply (ns.map .num) = .ok (.bool b) ∧
        (b = true ↔ ∀ i j (_ : i < ns.length) (_ : j < ns.length),
          i < j → R ns[i].toInt ns[j].toInt)) ∧
    (∀ ss : List String, 2 ≤ ss.length → ∃ b, stringEq.apply (ss.map .str) = .ok (.bool b) ∧
      (b = true ↔ ∀ s ∈ ss, ∀ t ∈ ss, s = t)) ∧
    ∀ (op : Prim) c, op.comparand? = some c → ∀ args v, 2 ≤ args.length →
      args.find? (fun v => !c.fits v) = some v →
      op.apply args = .error (c.refusal v.typeName) ∧ (c.refusal v.typeName).kind = .wrongType := by
  refine ⟨fun op R hR ns hlen => ?_, fun ss hlen => ?_, fun op c hc args v hlen hv => ?_⟩
  · obtain ⟨b, hrun, hb⟩ := run_map_num hR ns
    refine ⟨b, ?_, hb.trans List.pairwise_iff_getElem⟩
    rw [← run_eq_apply (.inr (by rwa [List.length_map])), hrun]
  · obtain ⟨b, hrun, hb⟩ := run_map_str ss
    refine ⟨b, ?_, hb.trans pairwise_eq_iff⟩
    rw [← run_eq_apply (.inr (by rwa [List.length_map])), hrun]
  · rw [← run_eq_apply (.inr hlen), run_of_find? hc hv]
    exact ⟨rfl, kind_refusal hc _⟩

theorem comparisons_decide_throughout_of_three :
    lt.apply [.num (-1), .num 0, .num 5] = .ok (.bool true) ∧
      stringEq.apply [.str "a", .str "a", .str "b"] = .ok (.bool false) ∧
      gt.apply [.num 1, .num 2, .str "", .nil] = .error (.notNumber "string") := by
  obtain ⟨hnumbers, hstrings, htypes⟩ := comparisons_decide_throughout
  refine ⟨?_, ?_, ?_⟩
  · obtain ⟨b, hb, hall⟩ := hnumbers lt _ rfl [-1, 0, 5] (by decide)
    have hpairwise : ([-1, 0, 5] : List Number).Pairwise fun m n => m.toInt < n.toInt := by decide
    obtain rfl : b = true := hall.2 (List.pairwise_iff_getElem.1 hpairwise)
    exact hb
  · obtain ⟨b, hb, hall⟩ := hstrings ["a", "a", "b"] (by decide)
    have hne : b ≠ true := fun h => absurd (hall.1 h "a" (by decide) "b" (by decide)) (by decide)
    obtain rfl : b = false := Bool.eq_false_iff.2 hne
    exact hb
  · exact (htypes gt _ rfl _ (.str "") (by decide) rfl).1

end Prim

end CallByName
