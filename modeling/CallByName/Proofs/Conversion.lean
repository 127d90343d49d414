import CallByName.Proofs.Lines
import CallByName.Proofs.Operators

/-! What expressions are built from data, said as rules: one for each shape that a form can have,
with what is asked of its names and its body. The conversion succeeds just where a rule applies, so
what holds of all its results is shown rule by rule. Where none applies a form is refused, and with
the same report wherever it is placed. -/

namespace CallByName

def Bindable (x : String) : Prop := Keyword.ofName? x = none ∧ Prim.ofName? x = none

structure Binders (names : List String) : Prop where
  bindable : ∀ x ∈ names, Bindable x
  nodup : names.Nodup

abbrev Keyword.datum (k : Keyword) : Datum := .sym k.name

open CallByName.Expr (keyword? binder binders ofDatum ofSpecial ofBody ofData ofBindings ofSymbol
  malformed)

mutual

/-- The expression that a datum makes at a site and in a position. -/
inductive Builds : Site → Position → Datum → Expr → Prop
  | num {site : Site} {position : Position} {n : Number} : Builds site position (.num n) (.num n)
  | bool {site : Site} {position : Position} {b : Bool} : Builds site position (.bool b) (.bool b)
  | str {site : Site} {position : Position} {s : String} : Builds site position (.str s) (.str s)
  | prim {site : Site} {position : Position} {op : Prim} :
    Builds site position (.sym op.name) (.prim op)
  | var {site : Site} {position : Position} {x : String} (hx : Bindable x) :
    Builds site position (.sym x) (.var x)
  | quote {site : Site} {position : Position} {d : Datum} :
    Builds site position (.list [Keyword.quote.datum, d]) (.quote d.toValue)
  | cond {site : Site} {position : Position} {t y n : Datum} {t' y' n' : Expr}
    (test : Builds (0 :: site) .operand t t') (yes : Builds (1 :: site) .operand y y')
    (no : Builds (2 :: site) .operand n n') :
    Builds site position (.list [Keyword.cond.datum, t, y, n]) (.cond t' y' n')
  | lambda {site : Site} {position : Position} {params : List String} {forms : List Datum}
    {body : List Expr} (hparams : Binders params) (hforms : forms ≠ [])
    (h : BuildsAll site .sequence 1 forms body) :
    Builds site position (.list (Keyword.lambda.datum :: .list (params.map .sym) :: forms))
      (.lambda (.mk site params body))
  | letIn {site : Site} {position : Position} {pairs forms : List Datum}
    {bindings : List (String × Expr)} {body : List Expr}
    (hbindings : BuildsBindings (0 :: site) 0 pairs bindings)
    (hnames : Binders (bindings.map Prod.fst)) (hforms : forms ≠ [])
    (h : BuildsAll site .sequence 1 forms body) :
    Builds site position (.list (Keyword.letIn.datum :: .list pairs :: forms))
      (.letIn bindings body)
  | letRec {site : Site} {position : Position} {pairs forms : List Datum}
    {bindings : List (String × Expr)} {body : List Expr}
    (hbindings : BuildsBindings (0 :: site) 0 pairs bindings)
    (hnames : Binders (bindings.map Prod.fst)) (hforms : forms ≠ [])
    (h : BuildsAll site .sequence 1 forms body) :
    Builds site position (.list (Keyword.letRec.datum :: .list pairs :: forms))
      (.letRec bindings body)
  | assign {site : Site} {position : Position} {x : String} {d : Datum} {value : Expr}
    (hx : Bindable x) (h : Builds (0 :: site) .operand d value) :
    Builds site position (.list [Keyword.assign.datum, .sym x, d]) (.assign x value)
  | define {site : Site} {x : String} {d : Datum} {value : Expr} (hx : Bindable x)
    (h : Builds (0 :: site) .operand d value) :
    Builds site .sequence (.list [Keyword.define.datum, .sym x, d]) (.define x value)
  | procedure {site : Site} {x : String} {params : List String} {forms : List Datum}
    {body : List Expr} (hx : Bindable x) (hparams : Binders params) (hforms : forms ≠ [])
    (h : BuildsAll site .sequence 1 forms body) :
    Builds site .sequence
      (.list (Keyword.define.datum :: .list (.sym x :: params.map .sym) :: forms))
      (.define x (.lambda (.mk site params body)))
  | app {site : Site} {position : Position} {d : Datum} {ds : List Datum} {rator : Expr}
    {rands : List Expr} (hd : keyword? d = none) (hrator : Builds (0 :: site) .operand d rator)
    (hrands : BuildsAll site .operand 1 ds rands) :
    Builds site position (.list (d :: ds)) (.app rator rands)

inductive BuildsAll : Site → Position → Nat → List Datum → List Expr → Prop
  | nil {site : Site} {position : Position} {i : Nat} : BuildsAll site position i [] []
  | cons {site : Site} {position : Position} {i : Nat} {d : Datum} {ds : List Datum} {e : Expr}
    {es : List Expr} (head : Builds (i :: site) position d e)
    (tail : BuildsAll site position (i + 1) ds es) :
    BuildsAll site position i (d :: ds) (e :: es)

inductive BuildsBindings : Site → Nat → List Datum → List (String × Expr) → Prop
  | nil {site : Site} {i : Nat} : BuildsBindings site i [] []
  | cons {site : Site} {i : Nat} {x : String} {d : Datum} {pairs : List Datum} {e : Expr}
    {bindings : List (String × Expr)} (head : Builds (i :: site) .operand d e)
    (tail : BuildsBindings site (i + 1) pairs bindings) :
    BuildsBindings site i (.list [.sym x, d] :: pairs) ((x, e) :: bindings)

end

theorem binder_eq_ok_iff {form d : Datum} {x : String} :
    binder form d = .ok x ↔ d = .sym x ∧ Bindable x := by
  cases d with
  | sym y =>
    rw [binder, Bindable]
    cases hk : Keyword.ofName? y with
    | some k =>
      simp only [Option.isSome_some, if_true, Datum.sym.injEq]
      refine iff_of_false nofun ?_
      rintro ⟨rfl, hx, -⟩
      rw [hk] at hx
      cases hx
    | none =>
      cases hop : Prim.ofName? y with
      | some op =>
        simp only [Option.isSome_none, Option.isSome_some, Datum.sym.injEq]
        refine iff_of_false nofun ?_
        rintro ⟨rfl, -, hx⟩
        rw [hop] at hx
        cases hx
      | none =>
        simp only [Option.isSome_none, Datum.sym.injEq]
        constructor
        · intro h
          cases h
          exact ⟨rfl, hk, hop⟩
        · rintro ⟨rfl, -⟩
          rfl
  | _ => exact iff_of_false nofun nofun

theorem binders_eq_ok_iff {form : Datum} {seen : List String} {ds : List Datum}
    {xs : List String} : binders form seen ds = .ok xs ↔
      ds = xs.map .sym ∧ Binders xs ∧ ∀ x ∈ xs, x ∉ seen := by
  induction ds generalizing seen xs with
  | nil =>
    rw [binders]
    constructor
    · intro h
      cases h
      exact ⟨rfl, ⟨List.forall_mem_nil _, List.nodup_nil⟩, List.forall_mem_nil _⟩
    · rintro ⟨hxs, -⟩
      obtain rfl := List.map_eq_nil_iff.1 hxs.symm
      rfl
  | cons d ds ih =>
    rw [binders, bind_eq_ok_iff]
    simp only [binder_eq_ok_iff]
    constructor
    · rintro ⟨x, ⟨rfl, hx⟩, h⟩
      by_cases hseen : seen.contains x = true
      · rw [if_pos hseen] at h
        cases h
      · rw [if_neg hseen, bind_eq_ok_iff] at h
        obtain ⟨ys, hys, heq⟩ := h
        cases heq
        obtain ⟨rfl, hys, hnew⟩ := ih.1 hys
        rw [List.contains_iff_mem] at hseen
        refine ⟨rfl, ⟨List.forall_mem_cons.2 ⟨hx, hys.bindable⟩, List.nodup_cons.2 ⟨?_, hys.nodup⟩⟩,
          List.forall_mem_cons.2 ⟨hseen, ?_⟩⟩
        · intro hmem
          exact hnew x hmem List.mem_cons_self
        · intro y hy hmem
          exact hnew y hy (List.mem_cons_of_mem x hmem)
    · rintro ⟨hds, hxs, hnew⟩
      obtain ⟨x, ys, rfl, rfl, rfl⟩ := List.map_eq_cons_iff.1 hds.symm
      obtain ⟨hx, hys⟩ := List.forall_mem_cons.1 hxs.bindable
      obtain ⟨hxseen, hnew⟩ := List.forall_mem_cons.1 hnew
      obtain ⟨hxys, hnodup⟩ := List.nodup_cons.1 hxs.nodup
      refine ⟨x, ⟨rfl, hx⟩, ?_⟩
      rw [if_neg (by rwa [List.contains_iff_mem]), bind_eq_ok_iff]
      refine ⟨ys, ih.2 ⟨rfl, ⟨hys, hnodup⟩, ?_⟩, rfl⟩
      intro y hy hmem
      rcases List.mem_cons.1 hmem with rfl | hmem
      · exact hxys hy
      · exact hnew y hy hmem

theorem bindable_iff {x : String} : Bindable x ↔ ofSymbol x = .ok (.var x) := by
  rw [ofSymbol, Bindable]
  cases hk : Keyword.ofName? x with
  | some k => exact iff_of_false (fun h => by cases h.1) nofun
  | none =>
    cases hop : Prim.ofName? x with
    | some op => exact iff_of_false (fun h => by cases h.2) nofun
    | none => exact iff_of_true ⟨rfl, rfl⟩ rfl

theorem Prim.keyword_ofName?_name (op : Prim) : Keyword.ofName? op.name = none := by
  cases op <;> decide

theorem builds_of_ofSymbol {site : Site} {position : Position} {x : String} {e : Expr}
    (h : ofSymbol x = .ok e) : Builds site position (.sym x) e := by
  rw [ofSymbol] at h
  split at h
  · cases h
  · rename_i hk
    split at h
    · rename_i op hop
      cases h
      rw [← Prim.name_of_ofName? hop]
      exact .prim
    · rename_i hop
      cases h
      exact .var ⟨by simpa using hk, hop⟩

theorem Keyword.eq_datum {d : Datum} {k : Keyword} (h : keyword? d = some k) : d = k.datum := by
  cases d with
  | sym x =>
    rw [keyword?] at h
    rw [← Keyword.name_of_ofName? h]
  | _ => cases h

theorem ofBody_eq_ok_iff {site : Site} {form : Datum} {ds : List Datum} {es : List Expr} :
    ofBody site form ds = .ok es ↔ ds ≠ [] ∧ ofData site .sequence 1 ds = .ok es := by
  cases ds with
  | nil => exact iff_of_false (by rw [ofBody]; nofun) (fun h => h.1 rfl)
  | cons d ds =>
    rw [ofBody, ofData]
    exact ⟨fun h => ⟨List.cons_ne_nil d ds, h⟩, fun h => h.2⟩

def SyntaxError.IsMalformation (e : SyntaxError) : Prop :=
  ∃ (m : Malformation) (form : Datum), e = m.report form

/-- Two conversions that go the same way: both succeed, with results as `R` says, or both refuse a
form with the same report. -/
abbrev Abreast {α β : Type} (R : α → β → Prop) :
    Except SyntaxError α → Except SyntaxError β → Prop :=
  ResultLike (fun e e' => e = e' ∧ e.IsMalformation) R

namespace Abreast

variable {α β : Type} {R Q : α → β → Prop} {P : α → Prop} {x : Except SyntaxError α}
  {y : Except SyntaxError β}

theorem malformed (form : Datum) (m : Malformation) :
    Abreast R (Expr.malformed form m) (Expr.malformed form m) :=
  .error ⟨rfl, m, form, rfl⟩

theorem refl (h : FailsOnly SyntaxError.IsMalformation x) :
    Abreast (fun a b => a = b ∧ x = .ok a) x x := by
  cases x with
  | error e => exact .error ⟨rfl, h e rfl⟩
  | ok a => exact .ok ⟨rfl, rfl⟩

theorem imp (h : Abreast R x y) (hR : ∀ a b, R a b → Q a b) : Abreast Q x y :=
  ResultLike.imp h (fun _ _ he => he) hR

theorem of_ok {a : α} (h : Abreast (fun a _ => P a) x y) (hx : x = .ok a) : P a := by
  subst hx
  cases h with
  | ok h => exact h

theorem failsOnly (h : Abreast R x y) : FailsOnly SyntaxError.IsMalformation x := by
  cases h with
  | error h => exact .error h.2
  | ok _ => exact .ok _

end Abreast

theorem failsOnly_malformed {α : Type} (form : Datum) (m : Malformation) :
    FailsOnly SyntaxError.IsMalformation (malformed form m : Except SyntaxError α) :=
  .error ⟨m, form, rfl⟩

theorem failsOnly_binder (form d : Datum) :
    FailsOnly SyntaxError.IsMalformation (binder form d) := by
  unfold binder
  split
  · split
    · exact failsOnly_malformed form _
    · split
      · exact failsOnly_malformed form _
      · exact .ok _
  · exact failsOnly_malformed form _

theorem failsOnly_binders (form : Datum) (seen : List String) (ds : List Datum) :
    FailsOnly SyntaxError.IsMalformation (binders form seen ds) := by
  induction ds generalizing seen with
  | nil => exact .ok []
  | cons d ds ih =>
    refine (failsOnly_binder form d).bind fun x => ?_
    split
    · exact failsOnly_malformed form _
    · exact (ih _).bind fun xs => .ok _

theorem failsOnly_ofSymbol (x : String) :
    FailsOnly SyntaxError.IsMalformation (ofSymbol x) := by
  unfold ofSymbol
  split
  · exact failsOnly_malformed _ _
  · split
    · exact .ok _
    · exact .ok _

theorem abreast_ofSymbol (site : Site) (position : Position) (x : String) :
    Abreast (fun e _ => Builds site position (.sym x) e) (ofSymbol x) (ofSymbol x) :=
  (Abreast.refl (failsOnly_ofSymbol x)).imp fun _ _ h => builds_of_ofSymbol h.2

theorem abreast_binder (form d : Datum) : Abreast (fun x y => x = y ∧ d = .sym x ∧ Bindable x)
    (binder form d) (binder form d) :=
  (Abreast.refl (failsOnly_binder form d)).imp fun _ _ h => ⟨h.1, binder_eq_ok_iff.1 h.2⟩

theorem abreast_binders (form : Datum) (ds : List Datum) :
    Abreast (fun xs ys => xs = ys ∧ ds = xs.map .sym ∧ Binders xs)
      (binders form [] ds) (binders form [] ds) := by
  refine (Abreast.refl (failsOnly_binders form [] ds)).imp fun xs ys h => ?_
  obtain ⟨hds, hxs, -⟩ := binders_eq_ok_iff.1 h.2
  exact ⟨h.1, hds, hxs⟩

theorem abreast_bindingForm {F : List (String × Expr) → List Expr → Expr} {form : Datum}
    {P : List (String × Expr) → Prop} {Q : List Expr → Prop}
    {x x' : Except SyntaxError (List (Datum × Expr))} {y y' : Except SyntaxError (List Expr)}
    (hbindings : Abreast (fun bs bs' => bs.map Prod.fst = bs'.map Prod.fst ∧
      ∀ names : List String, bs.map Prod.fst = names.map .sym →
        P (names.zip (bs.map Prod.snd))) x x')
    (hbody : Abreast (fun es _ => Q es) y y') :
    Abreast (fun e _ => ∃ bindings body, e = F bindings body ∧ P bindings ∧
        Binders (bindings.map Prod.fst) ∧ Q body)
      (do
        let bindings ← x
        let names ← binders form [] (bindings.map Prod.fst)
        return F (names.zip (bindings.map Prod.snd)) (← y))
      (do
        let bindings ← x'
        let names ← binders form [] (bindings.map Prod.fst)
        return F (names.zip (bindings.map Prod.snd)) (← y')) := by
  refine hbindings.bind ?_
  rintro bs bs' ⟨hfst, hP⟩
  rw [← hfst]
  refine (abreast_binders form _).bind ?_
  rintro names _ ⟨rfl, hsym, hnames⟩
  refine hbody.bind fun es _ hes => .ok ⟨_, es, rfl, hP names hsym, ?_, hes⟩
  have hlength : names.length = (bs.map Prod.snd).length := by
    have := congrArg List.length hsym
    simpa using this.symm
  rwa [List.map_fst_zip (Nat.le_of_eq hlength)]

-- By size, since the values of bindings lie two levels below the form.
mutual

/-- At two sites a datum is converted the same way, by the rules. -/
theorem abreast_ofDatum (site site' : Site) (position : Position) : (d : Datum) →
    Abreast (fun e _ => Builds site position d e)
      (ofDatum site position d) (ofDatum site' position d)
  | .num n => by
    rw [ofDatum, ofDatum]
    exact .ok .num
  | .bool b => by
    rw [ofDatum, ofDatum]
    exact .ok .bool
  | .str s => by
    rw [ofDatum, ofDatum]
    exact .ok .str
  | .sym x => by
    rw [ofDatum, ofDatum]
    exact abreast_ofSymbol site position x
  | .list [] => by
    rw [ofDatum, ofDatum]
    exact .malformed _ _
  | .list (d :: ds) => by
    rw [ofDatum, ofDatum]
    split
    · rename_i k hk
      obtain rfl := Keyword.eq_datum hk
      exact abreast_ofSpecial site site' position k ds
    · rename_i hk
      exact (abreast_ofDatum _ _ .operand d).bind fun _ _ hrator =>
        (abreast_ofData _ _ .operand 1 ds).bind fun _ _ hrands => .ok (.app hk hrator hrands)
termination_by d => sizeOf d
decreasing_by all_goals
  simp only [Datum.list.sizeOf_spec, List.cons.sizeOf_spec]
  omega

theorem abreast_ofSpecial (site site' : Site) (position : Position) (k : Keyword) :
    (ds : List Datum) →
    Abreast (fun e _ => Builds site position (.list (k.datum :: ds)) e)
      (ofSpecial site position (.list (k.datum :: ds)) k ds)
      (ofSpecial site' position (.list (k.datum :: ds)) k ds) := by
  intro ds
  unfold ofSpecial
  split
  · exact .ok .quote
  · rename_i test yes no
    exact (abreast_ofDatum _ _ .operand test).bind fun _ _ htest =>
      (abreast_ofDatum _ _ .operand yes).bind fun _ _ hyes =>
        (abreast_ofDatum _ _ .operand no).bind fun _ _ hno => .ok (.cond htest hyes hno)
  · rename_i params body
    refine (abreast_binders _ params).bind ?_
    rintro xs _ ⟨rfl, rfl, hxs⟩
    exact (abreast_ofBody site site' _ body).bind fun _ _ h => .ok (.lambda hxs h.1 h.2)
  · rename_i pairs body
    refine (abreast_bindingForm (abreast_ofBindings _ _ _ 0 pairs)
      (abreast_ofBody site site' _ body)).imp ?_
    rintro _ _ ⟨bindings, es, rfl, hbindings, hnames, hforms, hes⟩
    exact .letIn hbindings hnames hforms hes
  · rename_i pairs body
    refine (abreast_bindingForm (abreast_ofBindings _ _ _ 0 pairs)
      (abreast_ofBody site site' _ body)).imp ?_
    rintro _ _ ⟨bindings, es, rfl, hbindings, hnames, hforms, hes⟩
    exact .letRec hbindings hnames hforms hes
  · exact .malformed _ _
  · exact .malformed _ _
  · rename_i name value
    refine (abreast_binder _ name).bind ?_
    rintro x _ ⟨rfl, rfl, hx⟩
    exact (abreast_ofDatum _ _ .operand value).bind fun _ _ h => .ok (.assign hx h)
  · split
    · exact .malformed _ _
    · rename_i hposition
      obtain rfl : position = .sequence := by
        cases position with
        | sequence => rfl
        | operand => exact absurd rfl hposition
      split
      · rename_i x value
        refine (abreast_binder _ (.sym x)).bind ?_
        rintro y _ ⟨rfl, hsym, hx⟩
        cases hsym
        exact (abreast_ofDatum _ _ .operand value).bind fun _ _ h => .ok (.define hx h)
      · rename_i name params body
        refine (abreast_binder _ name).bind ?_
        rintro x _ ⟨rfl, rfl, hx⟩
        refine (abreast_binders _ params).bind ?_
        rintro xs _ ⟨rfl, rfl, hxs⟩
        exact (abreast_ofBody site site' _ body).bind fun _ _ h => .ok (.procedure hx hxs h.1 h.2)
      · exact .malformed _ _
  · exact .malformed _ _
termination_by ds => sizeOf ds
decreasing_by all_goals
  subst_vars
  simp only [Datum.list.sizeOf_spec, List.cons.sizeOf_spec]
  omega

theorem abreast_ofBody (site site' : Site) (form : Datum) : (ds : List Datum) →
    Abreast (fun es _ => ds ≠ [] ∧ BuildsAll site .sequence 1 ds es)
      (ofBody site form ds) (ofBody site' form ds)
  | [] => by
    rw [ofBody, ofBody]
    exact .malformed form _
  | d :: ds => by
    rw [ofBody, ofBody]
    exact (abreast_ofDatum _ _ .sequence d).bind fun _ _ head =>
      (abreast_ofData _ _ .sequence 2 ds).bind fun _ _ tail =>
        .ok ⟨List.cons_ne_nil d ds, .cons head tail⟩
termination_by ds => sizeOf ds
decreasing_by all_goals
  simp only [List.cons.sizeOf_spec]
  omega

theorem abreast_ofData (site site' : Site) (position : Position) (i : Nat) :
    (ds : List Datum) → Abreast (fun es _ => BuildsAll site position i ds es)
      (ofData site position i ds) (ofData site' position i ds)
  | [] => by
    rw [ofData, ofData]
    exact .ok .nil
  | d :: ds => by
    rw [ofData, ofData]
    exact (abreast_ofDatum _ _ position d).bind fun _ _ head =>
      (abreast_ofData _ _ position (i + 1) ds).bind fun _ _ tail => .ok (.cons head tail)
termination_by ds => sizeOf ds
decreasing_by all_goals
  simp only [List.cons.sizeOf_spec]
  omega

theorem abreast_ofBindings (site site' : Site) (form : Datum) (i : Nat) :
    (ds : List Datum) → Abreast (fun bs bs' => bs.map Prod.fst = bs'.map Prod.fst ∧
        ∀ names : List String, bs.map Prod.fst = names.map .sym →
          BuildsBindings site i ds (names.zip (bs.map Prod.snd)))
      (ofBindings site form i ds) (ofBindings site' form i ds)
  | [] => by
    rw [ofBindings, ofBindings]
    refine .ok ⟨rfl, fun names _ => ?_⟩
    rw [List.map_nil, List.zip_nil_right]
    exact .nil
  | d :: ds => by
    by_cases hd : ∃ name value, d = .list [name, value]
    · obtain ⟨name, value, rfl⟩ := hd
      rw [ofBindings, ofBindings]
      refine (abreast_ofDatum _ _ .operand value).bind fun e _ head =>
        (abreast_ofBindings _ _ form (i + 1) ds).bind ?_
      rintro bs bs' ⟨hnames, tail⟩
      refine .ok ⟨congrArg (name :: ·) hnames, fun names hsym => ?_⟩
      obtain ⟨x, names, rfl, rfl, hrest⟩ := List.map_eq_cons_iff.1 hsym.symm
      exact .cons head (tail names hrest.symm)
    · have hpair : ∀ name value, d = .list [name, value] → False :=
        fun name value hpair => hd ⟨name, value, hpair⟩
      rw [ofBindings, ofBindings]
      · exact .malformed form _
      · exact hpair
      · exact hpair
termination_by ds => sizeOf ds
decreasing_by all_goals
  subst_vars
  simp only [Datum.list.sizeOf_spec, List.cons.sizeOf_spec]
  omega

end

theorem builds_of_ofDatum {site : Site} {position : Position} {d : Datum} {e : Expr}
    (h : ofDatum site position d = .ok e) : Builds site position d e :=
  (abreast_ofDatum site site position d).of_ok h

theorem buildsAll_of_ofData {site : Site} {position : Position} {i : Nat} {ds : List Datum}
    {es : List Expr} (h : ofData site position i ds = .ok es) :
    BuildsAll site position i ds es :=
  (abreast_ofData site site position i ds).of_ok h

theorem keyword?_datum (k : Keyword) : keyword? k.datum = some k := Keyword.ofName?_name k

theorem ofDatum_special (site : Site) (position : Position) (k : Keyword) (ds : List Datum) :
    ofDatum site position (.list (k.datum :: ds)) =
      ofSpecial site position (.list (k.datum :: ds)) k ds := by
  rw [ofDatum]
  simp only [keyword?_datum]

section

variable {form : Datum} {x : String} {xs : List String}

theorem binder_of_bindable (hx : Bindable x) : binder form (.sym x) = .ok x :=
  binder_eq_ok_iff.2 ⟨rfl, hx⟩

theorem binders_of_binders (hxs : Binders xs) : binders form [] (xs.map .sym) = .ok xs :=
  binders_eq_ok_iff.2 ⟨rfl, hxs, fun _ _ => List.not_mem_nil⟩

theorem binders_bindings {bindings : List (String × Expr)}
    (hnames : Binders (bindings.map Prod.fst)) :
    binders form [] ((bindings.map fun b => (Datum.sym b.1, b.2)).map Prod.fst) =
      .ok (bindings.map Prod.fst) := by
  have hmap : (bindings.map fun b => (Datum.sym b.1, b.2)).map Prod.fst =
      (bindings.map Prod.fst).map .sym := by
    rw [List.map_map, List.map_map]
    rfl
  rw [hmap, binders_of_binders hnames]

end

theorem zip_bindings (bindings : List (String × Expr)) : (bindings.map Prod.fst).zip
    ((bindings.map fun b => (Datum.sym b.1, b.2)).map Prod.snd) = bindings := by
  induction bindings with
  | nil => rfl
  | cons b bindings ih =>
    simp only [List.map_cons, List.zip_cons_cons, ih]

theorem bindingForm_of_binders {F : List (String × Expr) → List Expr → Expr} {form : Datum}
    {x : Except SyntaxError (List (Datum × Expr))} {y : Except SyntaxError (List Expr)}
    {bindings : List (String × Expr)} {body : List Expr}
    (hx : x = .ok (bindings.map fun b => (.sym b.1, b.2)))
    (hnames : Binders (bindings.map Prod.fst)) (hy : y = .ok body) :
    (do
      let bindings ← x
      let names ← binders form [] (bindings.map Prod.fst)
      return F (names.zip (bindings.map Prod.snd)) (← y)) = .ok (F bindings body) := by
  subst hx hy
  change (binders form [] _ >>= _) = _
  rw [binders_bindings hnames]
  change Except.ok (F _ body) = _
  rw [zip_bindings]

mutual

theorem ofDatum_of_builds : {site : Site} → {position : Position} → {d : Datum} → {e : Expr} →
    Builds site position d e → ofDatum site position d = .ok e
  | _, _, _, _, .num => by rw [ofDatum]
  | _, _, _, _, .bool => by rw [ofDatum]
  | _, _, _, _, .str => by rw [ofDatum]
  | _, _, _, _, .prim => by
    rw [ofDatum, ofSymbol, Prim.keyword_ofName?_name, Prim.ofName?_name]
    rfl
  | _, _, _, _, .var hx => by rw [ofDatum, bindable_iff.1 hx]
  | _, _, _, _, .quote => by rw [ofDatum_special, ofSpecial]
  | _, _, _, _, .cond test yes no => by
    rw [ofDatum_special, ofSpecial, ofDatum_of_builds test, ofDatum_of_builds yes,
      ofDatum_of_builds no]
    rfl
  | _, _, _, _, .lambda hparams hforms h => by
    rw [ofDatum_special, ofSpecial, binders_of_binders hparams,
      ofBody_eq_ok_iff.2 ⟨hforms, ofData_of_buildsAll h⟩]
    rfl
  | _, _, _, _, .letIn hbindings hnames hforms h => by
    rw [ofDatum_special, ofSpecial]
    exact bindingForm_of_binders (ofBindings_of_buildsBindings hbindings) hnames
      (ofBody_eq_ok_iff.2 ⟨hforms, ofData_of_buildsAll h⟩)
  | _, _, _, _, .letRec hbindings hnames hforms h => by
    rw [ofDatum_special, ofSpecial]
    exact bindingForm_of_binders (ofBindings_of_buildsBindings hbindings) hnames
      (ofBody_eq_ok_iff.2 ⟨hforms, ofData_of_buildsAll h⟩)
  | _, _, _, _, .assign hx h => by
    rw [ofDatum_special, ofSpecial, binder_of_bindable hx, ofDatum_of_builds h]
    rfl
  | _, _, _, _, .define hx h => by
    rw [ofDatum_special, ofSpecial, binder_of_bindable hx, ofDatum_of_builds h]
    rfl
  | _, _, _, _, .procedure hx hparams hforms h => by
    rw [ofDatum_special, ofSpecial, binder_of_bindable hx, binders_of_binders hparams,
      ofBody_eq_ok_iff.2 ⟨hforms, ofData_of_buildsAll h⟩]
    rfl
  | _, _, _, _, .app hd hrator hrands => by
    rw [ofDatum, hd, ofDatum_of_builds hrator, ofData_of_buildsAll hrands]
    rfl

theorem ofData_of_buildsAll : {site : Site} → {position : Position} → {i : Nat} →
    {ds : List Datum} → {es : List Expr} → BuildsAll site position i ds es →
    ofData site position i ds = .ok es
  | _, _, _, _, _, .nil => by rw [ofData]
  | _, _, _, _, _, .cons head tail => by
    rw [ofData, ofDatum_of_builds head, ofData_of_buildsAll tail]
    rfl

theorem ofBindings_of_buildsBindings : {site : Site} → {form : Datum} → {i : Nat} →
    {pairs : List Datum} → {bindings : List (String × Expr)} →
    BuildsBindings site i pairs bindings →
    ofBindings site form i pairs = .ok (bindings.map fun b => (.sym b.1, b.2))
  | _, _, _, _, _, .nil => by
    rw [ofBindings]
    rfl
  | _, _, _, _, _, .cons head tail => by
    rw [ofBindings, ofDatum_of_builds head, ofBindings_of_buildsBindings tail]
    rfl

end

theorem ofDatum_eq_ok_iff {site : Site} {position : Position} {d : Datum} {e : Expr} :
    ofDatum site position d = .ok e ↔ Builds site position d e :=
  ⟨builds_of_ofDatum, ofDatum_of_builds⟩

theorem ofData_eq_ok_iff {site : Site} {position : Position} {i : Nat} {ds : List Datum}
    {es : List Expr} : ofData site position i ds = .ok es ↔ BuildsAll site position i ds es :=
  ⟨buildsAll_of_ofData, ofData_of_buildsAll⟩

end CallByName
