import CallByName.Prim.Apply
import Mathlib.Algebra.Ring.Int.Defs

/-! Arithmetic gives the exact result or an error, and the error is that of the leftmost step that
cannot be done. Division by several numbers is truncated at every step, which comes to dividing once
by their exact product. -/

namespace CallByName

theorem tdiv_tdiv (a b c : Int) : (a.tdiv b).tdiv c = a.tdiv (b * c) := by
  have hnat (m n k : Nat) : ((m : Int).tdiv n).tdiv k = (m : Int).tdiv (n * k) := by
    rw [← Int.ofNat_tdiv, ← Int.ofNat_tdiv, Nat.div_div_eq_div_mul, Int.ofNat_tdiv, Int.natCast_mul]
  obtain ⟨m, rfl | rfl⟩ := Int.eq_nat_or_neg a <;> obtain ⟨n, rfl | rfl⟩ := Int.eq_nat_or_neg b <;>
    obtain ⟨k, rfl | rfl⟩ := Int.eq_nat_or_neg c <;>
    simp only [Int.neg_tdiv, Int.tdiv_neg, Int.neg_mul, Int.mul_neg, Int.neg_neg, hnat]

namespace Number

def InRange (i : Int) : Prop := Int64.minValue.toInt ≤ i ∧ i ≤ Int64.maxValue.toInt

instance (i : Int) : Decidable (InRange i) := inferInstanceAs (Decidable (_ ∧ _))

theorem inRange_toInt (n : Number) : InRange n.toInt :=
  ⟨Int64.minValue_le_toInt n, Int64.toInt_le n⟩

theorem ofInt?_eq_none_iff {i : Int} : ofInt? i = none ↔ ¬ InRange i := by
  unfold ofInt?
  split
  · rename_i h
    exact ⟨nofun, fun hn => absurd h hn⟩
  · rename_i h
    exact ⟨fun _ => h, fun _ => rfl⟩

theorem inRange_tdiv_iff {a b : Number} (hb : b ≠ 0) :
    InRange (a.toInt.tdiv b.toInt) ↔ ¬ (a.toInt = Int64.minValue.toInt ∧ b = -1) := by
  have hmin : Int64.minValue.toInt = -2 ^ 63 := by decide
  have hmax : Int64.maxValue.toInt = 2 ^ 63 - 1 := by decide
  have hone : (-1 : Number).toInt = -1 := by decide
  have hb : b.toInt ≠ 0 := fun h => hb (Int64.toInt_inj.1 h)
  obtain ⟨hlow, hhigh⟩ := inRange_toInt a
  simp only [InRange, ← Int64.toInt_inj, hmin, hmax, hone] at hlow hhigh ⊢
  by_cases habs : b.toInt.natAbs = 1
  · obtain hone | hone : b.toInt = 1 ∨ b.toInt = -1 := by omega
    · rw [hone, Int.tdiv_one]
      omega
    · rw [hone, Int.tdiv_neg, Int.tdiv_one]
      omega
  -- Any other divisor at least halves the dividend.
  · have hhalf : (a.toInt.tdiv b.toInt).natAbs ≤ a.toInt.natAbs / 2 := by
      rw [Int.natAbs_tdiv]
      exact Nat.div_le_div_left (by omega) (by decide)
    omega

end Number

open Number

namespace Prim

/-- An operation on numbers, beside what it is exactly and the errors that it has instead. -/
structure Steps (exact : Int → Number → Int) (Fault : Int → Number → Error → Prop)
    (step : Number → Number → Except Error Number) : Prop where
  ok_iff {a b r : Number} :
    step a b = .ok r ↔ (∀ e, ¬ Fault a.toInt b e) ∧ r.toInt = exact a.toInt b
  error_iff {a b : Number} {e : Error} : step a b = .error e ↔ Fault a.toInt b e

section

variable {exact : Int → Number → Int} {Fault : Int → Number → Error → Prop}
  {step : Number → Number → Except Error Number}

def Faultless (exact : Int → Number → Int) (Fault : Int → Number → Error → Prop) (i : Int)
    (ns : List Number) : Prop :=
  ∀ before n after, ns = before ++ n :: after → ∀ e, ¬ Fault (before.foldl exact i) n e

def FirstFault (exact : Int → Number → Int) (Fault : Int → Number → Error → Prop) (i : Int)
    (ns : List Number) (e : Error) : Prop :=
  ∃ before n after, ns = before ++ n :: after ∧ Faultless exact Fault i before ∧
    Fault (before.foldl exact i) n e

theorem faultless_nil (i : Int) : Faultless exact Fault i [] := by
  intro before n after h
  cases before <;> cases h

theorem faultless_cons_iff {i : Int} {n : Number} {ns : List Number} :
    Faultless exact Fault i (n :: ns) ↔
      (∀ e, ¬ Fault i n e) ∧ Faultless exact Fault (exact i n) ns := by
  constructor
  · refine fun h => ⟨h [] n ns rfl, fun before m after hns => ?_⟩
    exact h (n :: before) m after (congrArg (n :: ·) hns)
  · rintro ⟨hfirst, hrest⟩ (_ | ⟨m, before⟩) k after h
    · cases h
      exact hfirst
    · cases h
      exact hrest before k after rfl

theorem firstFault_cons_iff {i : Int} {n : Number} {ns : List Number} {e : Error} :
    FirstFault exact Fault i (n :: ns) e ↔
      Fault i n e ∨ (∀ e, ¬ Fault i n e) ∧ FirstFault exact Fault (exact i n) ns e := by
  constructor
  · rintro ⟨_ | ⟨m, before⟩, k, after, h, hbefore, hfault⟩
    · cases h
      exact .inl hfault
    · cases h
      obtain ⟨hfirst, hbefore⟩ := faultless_cons_iff.1 hbefore
      exact .inr ⟨hfirst, before, k, after, rfl, hbefore, hfault⟩
  · rintro (hfault | ⟨hfirst, before, m, after, rfl, hbefore, hfault⟩)
    · exact ⟨[], n, ns, rfl, faultless_nil i, hfault⟩
    · exact ⟨n :: before, m, after, rfl, faultless_cons_iff.2 ⟨hfirst, hbefore⟩, hfault⟩

theorem Steps.foldlM_eq_ok_iff (h : Steps exact Fault step) {a r : Number} {ns : List Number} :
    ns.foldlM step a = .ok r ↔
      Faultless exact Fault a.toInt ns ∧ r.toInt = ns.foldl exact a.toInt := by
  induction ns generalizing a with
  | nil => simp [faultless_nil, pure, Except.pure, Int64.toInt_inj, eq_comm]
  | cons n ns ih =>
    rw [List.foldlM_cons, faultless_cons_iff, List.foldl_cons]
    cases hstep : step a n with
    | error e => exact ⟨nofun, fun hr => absurd (h.error_iff.1 hstep) (hr.1.1 e)⟩
    | ok b =>
      obtain ⟨hfirst, hb⟩ := h.ok_iff.1 hstep
      rw [← hb, and_iff_right hfirst]
      exact ih

theorem Steps.foldlM_eq_error_iff (h : Steps exact Fault step) {a : Number} {ns : List Number}
    {e : Error} : ns.foldlM step a = .error e ↔ FirstFault exact Fault a.toInt ns e := by
  induction ns generalizing a with
  | nil => exact ⟨nofun, by rintro ⟨_ | _, _, _, hnil, -⟩ <;> cases hnil⟩
  | cons n ns ih =>
    rw [List.foldlM_cons, firstFault_cons_iff]
    cases hstep : step a n with
    | error e' =>
      have hfault := h.error_iff.1 hstep
      constructor
      · rintro ⟨⟩
        exact .inl hfault
      · rintro (hfault' | ⟨hnone, -⟩)
        · exact hstep.symm.trans (h.error_iff.2 hfault')
        · exact absurd hfault (hnone e')
    | ok b =>
      obtain ⟨hfirst, hb⟩ := h.ok_iff.1 hstep
      rw [or_iff_right (hfirst e), and_iff_right hfirst, ← hb]
      exact ih

theorem map_num_eq_ok_iff {x : Except Error Number} {v : Value} :
    x.map Value.num = .ok v ↔ ∃ r, v = .num r ∧ x = .ok r := by
  cases x with
  | error e => exact ⟨nofun, nofun⟩
  | ok n =>
    constructor
    · intro h
      cases h
      exact ⟨n, rfl, rfl⟩
    · rintro ⟨_, rfl, ⟨⟩⟩
      rfl

theorem Steps.map_num_foldlM_eq_ok_iff (h : Steps exact Fault step) {a : Number}
    {ns : List Number} {v : Value} : (ns.foldlM step a).map Value.num = .ok v ↔
      Faultless exact Fault a.toInt ns ∧ ∃ r, v = .num r ∧ r.toInt = ns.foldl exact a.toInt := by
  simp only [map_num_eq_ok_iff, h.foldlM_eq_ok_iff, and_left_comm, exists_and_left]

theorem Steps.map_num_foldlM_eq_error_iff (h : Steps exact Fault step) {a : Number}
    {ns : List Number} {e : Error} : (ns.foldlM step a).map Value.num = .error e ↔
      FirstFault exact Fault a.toInt ns e := by
  rw [← h.foldlM_eq_error_iff]
  cases ns.foldlM step a with
  | error e' => simp only [Except.map, Except.error.injEq]
  | ok r => exact ⟨nofun, nofun⟩

end

def Overflow (op : Int → Int → Int) (operation : Operation) (i : Int) (n : Number) (e : Error) :
    Prop :=
  ¬ InRange (op i n.toInt) ∧ e = .overflow operation

section

variable {op : Int → Int → Int} {operation : Operation}
  {step : Number → Number → Except Error Number}

theorem steps_overflow (hstep : ∀ a b, step a b =
    (ofInt? (op a.toInt b.toInt)).elim (.error (.overflow operation)) .ok) :
    Steps (fun i n => op i n.toInt) (Overflow op operation) step := by
  constructor
  · intro a b r
    rw [hstep]
    cases h : ofInt? (op a.toInt b.toInt) with
    | none => exact ⟨nofun, fun hr => absurd ⟨ofInt?_eq_none_iff.1 h, rfl⟩ (hr.1 _)⟩
    | some m =>
      have hm := ofInt?_eq_some_iff.1 h
      have hrange : InRange (op a.toInt b.toInt) := hm ▸ inRange_toInt m
      rw [← hm, Int64.toInt_inj, eq_comm (a := r)]
      exact ⟨fun hr => ⟨fun _ he => he.1 hrange, Except.ok.inj hr⟩, fun hr => congrArg _ hr.2⟩
  · intro a b e
    rw [hstep]
    cases h : ofInt? (op a.toInt b.toInt) with
    | none =>
      have hrange := ofInt?_eq_none_iff.1 h
      exact ⟨fun he => ⟨hrange, (Except.error.inj he).symm⟩, fun he => congrArg _ he.2.symm⟩
    | some m => exact ⟨nofun, fun he => absurd (ofInt?_eq_some_iff.1 h ▸ inRange_toInt m) he.1⟩

theorem faultless_overflow_iff (op : Int → Int → Int) (operation : Operation) (a : Number)
    (ns : List Number) :
    Faultless (fun i n => op i n.toInt) (Overflow op operation) a.toInt ns ↔
      ∀ first, first <+: ns → InRange (first.foldl (fun i n => op i n.toInt) a.toInt) := by
  constructor
  · rintro h first ⟨after, rfl⟩
    obtain rfl | ⟨before, n, rfl⟩ := List.eq_nil_or_concat first
    · exact inRange_toInt a
    · rw [List.concat_eq_append, List.foldl_append]
      refine Classical.byContradiction fun hrange => ?_
      exact h before n after (by simp) _ ⟨hrange, rfl⟩
  · rintro h before n after rfl e ⟨hrange, -⟩
    have hfirst := h (before ++ [n]) ⟨after, by simp⟩
    rw [List.foldl_append] at hfirst
    exact hrange hfirst

end

/-- Either the total is the exact one, and so is the total of all numbers up to any point, or one of
these is out of range and the operation overflows. -/
structure ExactOrOverflow (operation : Operation) (total : List Number → Int) (ns : List Number)
    (x : Except Error Value) : Prop where
  ok_iff (v : Value) : x = .ok v ↔
    (∀ first, first <+: ns → InRange (total first)) ∧ ∃ r, v = .num r ∧ r.toInt = total ns
  overflow : (∃ first, first <+: ns ∧ ¬ InRange (total first)) → x = .error (.overflow operation)

theorem exactOrOverflow_foldlM {op : Int → Int → Int} {operation : Operation}
    {step : Number → Number → Except Error Number} (hstep : ∀ a b, step a b =
      (ofInt? (op a.toInt b.toInt)).elim (.error (.overflow operation)) .ok)
    {total : List Number → Int} {a : Number}
    (htotal : ∀ ns : List Number, ns.foldl (fun i n => op i n.toInt) a.toInt = total ns)
    (ns : List Number) :
    ExactOrOverflow operation total ns ((ns.foldlM step a).map .num) := by
  have hsteps := steps_overflow hstep
  have hfaultless := faultless_overflow_iff op operation a ns
  simp only [htotal] at hfaultless
  have hok (v : Value) : (ns.foldlM step a).map .num = .ok v ↔
      (∀ first, first <+: ns → InRange (total first)) ∧ ∃ r, v = .num r ∧ r.toInt = total ns := by
    rw [hsteps.map_num_foldlM_eq_ok_iff, hfaultless, htotal]
  refine ⟨hok, ?_⟩
  rintro ⟨first, hfirst, hrange⟩
  cases hx : (ns.foldlM step a).map Value.num with
  | ok v => exact absurd (((hok v).1 hx).1 first hfirst) hrange
  | error e =>
    obtain ⟨_, _, _, -, -, -, rfl⟩ := hsteps.map_num_foldlM_eq_error_iff.1 hx
    rfl

theorem foldl_add (ns : List Number) :
    ns.foldl (fun i n => i + n.toInt) (0 : Number).toInt = (ns.map Int64.toInt).sum := by
  rw [List.sum_eq_foldl, List.foldl_map]
  rfl

theorem foldl_mul (ns : List Number) :
    ns.foldl (fun i n => i * n.toInt) (1 : Number).toInt = (ns.map Int64.toInt).prod := by
  rw [List.prod_eq_foldl, List.foldl_map]
  rfl

theorem foldl_sub (i : Int) (ns : List Number) :
    ns.foldl (fun i n => i - n.toInt) i = i - (ns.map Int64.toInt).sum := by
  induction ns generalizing i with
  | nil => simp
  | cons n ns ih => rw [List.foldl_cons, ih, List.map_cons, List.sum_cons, Int.sub_sub]

theorem foldl_tdiv (i : Int) (ns : List Number) :
    ns.foldl (fun i n => i.tdiv n.toInt) i = i.tdiv (ns.map Int64.toInt).prod := by
  induction ns generalizing i with
  | nil => simp
  | cons n ns ih => rw [List.foldl_cons, ih, List.map_cons, List.prod_cons, tdiv_tdiv]

inductive DivisionFault (i : Int) (d : Number) : Error → Prop
  | zero (h : d = 0) : DivisionFault i d .divisionByZero
  | overflow (h : i = Int64.minValue.toInt) (hd : d = -1) : DivisionFault i d (.overflow .division)

theorem not_divisionFault_iff {i : Int} {d : Number} :
    (∀ e, ¬ DivisionFault i d e) ↔ d ≠ 0 ∧ ¬ (i = Int64.minValue.toInt ∧ d = -1) := by
  constructor
  · exact fun h => ⟨fun hd => h _ (.zero hd), fun ⟨hi, hd⟩ => h _ (.overflow hi hd)⟩
  · rintro ⟨hzero, hmin⟩ _ (hd | ⟨hi, hd⟩)
    · exact hzero hd
    · exact hmin ⟨hi, hd⟩

theorem divStep_cases (a b : Number) :
    (b = 0 ∧ divStep a b = .error .divisionByZero) ∨
      (a.toInt = Int64.minValue.toInt ∧ b = -1 ∧
        divStep a b = .error (.overflow .division)) ∨
      (b ≠ 0 ∧ ¬ (a.toInt = Int64.minValue.toInt ∧ b = -1) ∧
        ∃ r : Number, divStep a b = .ok r ∧ r.toInt = a.toInt.tdiv b.toInt) := by
  by_cases hzero : b = 0
  · exact .inl ⟨hzero, if_pos hzero⟩
  · rw [divStep, if_neg hzero, Number.quot?]
    cases h : ofInt? (a.toInt.tdiv b.toInt) with
    | none =>
      have hmin := not_not.1 (mt (inRange_tdiv_iff hzero).2 (ofInt?_eq_none_iff.1 h))
      exact .inr (.inl ⟨hmin.1, hmin.2, rfl⟩)
    | some r =>
      have hr := ofInt?_eq_some_iff.1 h
      exact .inr (.inr ⟨hzero, (inRange_tdiv_iff hzero).1 (hr ▸ inRange_toInt r), r, rfl, hr⟩)

theorem steps_divStep : Steps (fun i n => i.tdiv n.toInt) DivisionFault divStep := by
  constructor
  · intro a b r
    obtain ⟨hb, h⟩ | ⟨ha, hb, h⟩ | ⟨hzero, hmin, q, h, hq⟩ := divStep_cases a b
    · rw [h]
      exact ⟨nofun, fun hr => absurd (.zero hb) (hr.1 _)⟩
    · rw [h]
      exact ⟨nofun, fun hr => absurd (.overflow ha hb) (hr.1 _)⟩
    · rw [h, ← hq, Int64.toInt_inj, eq_comm (a := r)]
      have hnone := not_divisionFault_iff.2 ⟨hzero, hmin⟩
      exact ⟨fun hr => ⟨hnone, Except.ok.inj hr⟩, fun hr => congrArg _ hr.2⟩
  · intro a b e
    obtain ⟨rfl, h⟩ | ⟨ha, rfl, h⟩ | ⟨hzero, hmin, q, h, hq⟩ := divStep_cases a b
    · rw [h]
      constructor
      · rintro ⟨⟩
        exact .zero rfl
      · rintro (_ | ⟨_, hone⟩)
        · rfl
        · exact absurd hone (by decide)
    · rw [h]
      constructor
      · rintro ⟨⟩
        exact .overflow ha rfl
      · rintro (hzero | _)
        · exact absurd hzero (by decide)
        · rfl
    · rw [h]
      exact ⟨nofun, fun he => absurd he (not_divisionFault_iff.2 ⟨hzero, hmin⟩ e)⟩

/-- Division by each number in turn gives the quotient by their product, or the error of the
leftmost division that is not possible. -/
structure QuotientOrFault (i : Int) (ds : List Number) (x : Except Error Value) : Prop where
  ok_iff (v : Value) : x = .ok v ↔ Faultless (fun i n => i.tdiv n.toInt) DivisionFault i ds ∧
    ∃ r, v = .num r ∧ r.toInt = i.tdiv (ds.map Int64.toInt).prod
  error_iff (e : Error) :
    x = .error e ↔ FirstFault (fun i n => i.tdiv n.toInt) DivisionFault i ds e

theorem quotientOrFault_foldlM (a : Number) (ds : List Number) :
    QuotientOrFault a.toInt ds ((ds.foldlM divStep a).map .num) := by
  refine ⟨fun v => ?_, fun e => steps_divStep.map_num_foldlM_eq_error_iff⟩
  rw [steps_divStep.map_num_foldlM_eq_ok_iff, foldl_tdiv]

def OnNumbers (op : Prim) (total : List Number → Except Error Number) : Prop :=
  ∀ args, op.run args = do return .num (← total (← args.mapM Value.asNumber))

namespace OnNumbers

variable {op : Prim} {total : List Number → Except Error Number}

theorem add : OnNumbers add fun ns => ns.foldlM addStep 0 := fun _ => rfl

theorem mul : OnNumbers mul fun ns => ns.foldlM mulStep 1 := fun _ => rfl

theorem sub : OnNumbers sub difference := fun _ => rfl

theorem div : OnNumbers div quotient := fun _ => rfl

theorem apply_map_num (h : OnNumbers op total) (ns : List Number)
    (harity : op.arity.Accepts ns.length) : op.apply (ns.map .num) = (total ns).map .num := by
  rw [apply_of_accepts (by rwa [List.length_map]), h, Value.asks_number.mapM_map]
  rfl

theorem apply_of_find? (h : OnNumbers op total) {args : List Value} {v : Value}
    (harity : op.arity.Accepts args.length) (hv : args.find? (fun v => !v.isNumber) = some v) :
    op.apply args = .error (.notNumber v.typeName) := by
  rw [apply_of_accepts harity, h, Value.asks_number.mapM_of_find? hv]
  rfl

end OnNumbers

variable (n m : Number) (ns : List Number)

theorem apply_add : add.apply (ns.map .num) = (ns.foldlM addStep 0).map .num :=
  OnNumbers.add.apply_map_num ns trivial

theorem apply_mul : mul.apply (ns.map .num) = (ns.foldlM mulStep 1).map .num :=
  OnNumbers.mul.apply_map_num ns trivial

def negStep (a b : Number) : Except Error Number :=
  (a.sub? b).elim (.error (.overflow .negation)) .ok

theorem apply_sub_one : sub.apply [.num n] = ([n].foldlM negStep 0).map .num := by
  have hneg : difference [n] = negStep 0 n := by
    rw [negStep, Number.sub?, Int64.toInt_zero, Int.zero_sub]
    rfl
  simp only [List.foldlM_cons, List.foldlM_nil, bind_pure]
  rw [← hneg]
  exact OnNumbers.sub.apply_map_num [n] (Nat.le_refl 1)

theorem apply_sub_cons : sub.apply (.num n :: .num m :: ns.map .num) =
    ((m :: ns).foldlM subStep n).map .num :=
  OnNumbers.sub.apply_map_num (n :: m :: ns) (Nat.le_add_left 1 _)

theorem apply_div_one : div.apply [.num n] = ([n].foldlM divStep 1).map .num := by
  simp only [List.foldlM_cons, List.foldlM_nil, bind_pure]
  exact OnNumbers.div.apply_map_num [n] (Nat.le_refl 1)

theorem apply_div_cons : div.apply (.num n :: .num m :: ns.map .num) =
    ((m :: ns).foldlM divStep n).map .num :=
  OnNumbers.div.apply_map_num (n :: m :: ns) (Nat.le_add_left 1 _)

end Prim

open Prim

/-- Arithmetic on numbers is exact or an error. A sum, product or difference is the exact one if it
and all results on the way to it are in range, and otherwise an overflow; one number is subtracted
from 0 with the error of negation, and 1 is divided by one number. A quotient is that by the exact
product of the divisors, which need not be in range, unless a divisor is 0 or the least number
would be divided by -1; the leftmost such division is the error. But before all that the leftmost
operand that is not a number is. -/
theorem arithmetic_exact_or_error :
    (∀ ns, ExactOrOverflow .addition (fun ns => (ns.map Int64.toInt).sum) ns
        (Prim.add.apply (ns.map .num))) ∧
      (∀ ns, ExactOrOverflow .multiplication (fun ns => (ns.map Int64.toInt).prod) ns
        (Prim.mul.apply (ns.map .num))) ∧
      (∀ n, ExactOrOverflow .negation (fun ns => -(ns.map Int64.toInt).sum) [n]
        (Prim.sub.apply [.num n])) ∧
      (∀ a n ns, ExactOrOverflow .subtraction (fun ns => a.toInt - (ns.map Int64.toInt).sum)
        (n :: ns) (Prim.sub.apply (.num a :: .num n :: ns.map .num))) ∧
      (∀ n, Prim.div.apply [.num n] = Prim.div.apply [.num 1, .num n]) ∧
      (∀ a d ds, QuotientOrFault a.toInt (d :: ds)
        (Prim.div.apply (.num a :: .num d :: ds.map .num))) ∧
      ∀ op ∈ [Prim.add, .mul, .sub, .div], ∀ args v, args.find? (fun v => !v.isNumber) = some v →
        op.apply args = .error (.notNumber v.typeName) := by
  refine ⟨fun ns => ?_, fun ns => ?_, fun n => ?_, fun a n ns => ?_, fun n => ?_, fun a d ds => ?_,
    fun op hop args v hv => ?_⟩
  · rw [apply_add]
    exact exactOrOverflow_foldlM (fun _ _ => rfl) foldl_add ns
  · rw [apply_mul]
    exact exactOrOverflow_foldlM (fun _ _ => rfl) foldl_mul ns
  · rw [apply_sub_one]
    refine exactOrOverflow_foldlM (fun _ _ => rfl) (fun ns => ?_) [n]
    rw [foldl_sub, Int64.toInt_zero, Int.zero_sub]
  · rw [apply_sub_cons]
    exact exactOrOverflow_foldlM (fun _ _ => rfl) (foldl_sub a.toInt) (n :: ns)
  · rw [apply_div_one]
    exact (apply_div_cons 1 n []).symm
  · rw [apply_div_cons]
    exact quotientOrFault_foldlM a (d :: ds)
  · have hlength : 1 ≤ args.length := List.length_pos_of_mem (List.mem_of_find?_eq_some hv)
    simp only [List.mem_cons, List.not_mem_nil, or_false] at hop
    obtain rfl | rfl | rfl | rfl := hop
    · exact OnNumbers.add.apply_of_find? trivial hv
    · exact OnNumbers.mul.apply_of_find? trivial hv
    · exact OnNumbers.sub.apply_of_find? hlength hv
    · exact OnNumbers.div.apply_of_find? hlength hv

theorem arithmetic_exact_or_error_at_limits :
    Prim.add.apply [.num Int64.maxValue, .num 1, .num (-1)] = .error (.overflow .addition) ∧
      Prim.div.apply [.num Int64.minValue, .num 10000000000, .num (-10000000000)] = .ok (.num 0) ∧
      Prim.div.apply [.num Int64.minValue, .num 1, .num (-1), .num 0] =
        .error (.overflow .division) ∧
      Prim.div.apply [.num 1, .num 0, .str "", .nil] = .error (.notNumber "string") := by
  obtain ⟨hadd, -, -, -, -, hdiv, htype⟩ := arithmetic_exact_or_error
  refine ⟨?_, ?_, ?_, ?_⟩
  · exact (hadd [Int64.maxValue, 1, -1]).overflow ⟨[Int64.maxValue, 1], ⟨[-1], rfl⟩, by decide⟩
  · refine ((hdiv Int64.minValue 10000000000 [-10000000000]).ok_iff _).2 ⟨?_, 0, rfl, by decide⟩
    rw [faultless_cons_iff, faultless_cons_iff, not_divisionFault_iff, not_divisionFault_iff]
    exact ⟨by decide, by decide, faultless_nil _⟩
  · refine ((hdiv Int64.minValue 1 [-1, 0]).error_iff _).2 ⟨[1], -1, [0], rfl, ?_, ?_⟩
    · rw [faultless_cons_iff, not_divisionFault_iff]
      exact ⟨by decide, faultless_nil _⟩
    · exact .overflow (by decide) rfl
  · exact htype .div (by decide) _ (.str "") rfl

end CallByName
