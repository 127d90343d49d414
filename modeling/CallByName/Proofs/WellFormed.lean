import CallByName.Proofs.Conversion
import CallByName.Proofs.SingleDatum

/-! Well-formed expressions. The rules of the parser are stated for one form and its position, and
asked of every form in an expression. All that is parsed obeys them. -/

namespace CallByName

mutual

def Expr.inner : Expr → List (Position × Expr)
  | .cond test yes no =>
    (.operand, test) :: test.inner ++ (.operand, yes) :: yes.inner ++ (.operand, no) :: no.inner
  | .lambda proc => proc.inner
  | .app rator rands => (.operand, rator) :: rator.inner ++ Expr.partsAll .operand rands
  | .letIn bindings body => Expr.partsValues bindings ++ Expr.partsAll .sequence body
  | .letRec bindings body => Expr.partsValues bindings ++ Expr.partsAll .sequence body
  | .assign _ value => (.operand, value) :: value.inner
  | .define _ value => (.operand, value) :: value.inner
  | .num _ | .bool _ | .str _ | .prim _ | .var _ | .quote _ => []

def Lambda.inner : Lambda → List (Position × Expr)
  | .mk _ _ body => Expr.partsAll .sequence body

def Expr.partsAll (position : Position) : List Expr → List (Position × Expr)
  | [] => []
  | e :: es => (position, e) :: e.inner ++ Expr.partsAll position es

def Expr.partsValues : List (String × Expr) → List (Position × Expr)
  | [] => []
  | (_, e) :: bindings => (.operand, e) :: e.inner ++ Expr.partsValues bindings

end

def Expr.parts (position : Position) (e : Expr) : List (Position × Expr) := (position, e) :: e.inner

structure IsName (x : String) : Prop where
  spelled : isSymbol x.toList = true
  bindable : Bindable x

structure AreNames (names : List String) : Prop where
  areNames : ∀ x ∈ names, IsName x
  nodup : names.Nodup

def Value.IsData : Value → Prop
  | num _ | bool _ | str _ | nil => True
  | sym x => CallByName.isSymbol x.toList = true
  | pair car cdr => car.IsData ∧ cdr.IsData ∧ cdr.isList = true
  | prim _ | closure .. => False

/-- The rules of the parser for one form in its position. -/
def Expr.Regular (position : Position) : Expr → Prop
  | .var x => IsName x
  | .lambda proc => AreNames proc.params ∧ proc.body ≠ []
  | .letIn bindings body => AreNames (bindings.map Prod.fst) ∧ body ≠ []
  | .letRec bindings body => AreNames (bindings.map Prod.fst) ∧ body ≠ []
  | .assign x _ => IsName x
  | .define x _ => IsName x ∧ position = .sequence
  | .quote v => v.IsData
  | .num _ | .bool _ | .str _ | .prim _ | .cond .. | .app .. => True

abbrev Everywhere (P : Position → Expr → Prop) (parts : List (Position × Expr)) : Prop :=
  ∀ part ∈ parts, P part.1 part.2

namespace Expr

section

variable {P : Position → Expr → Prop} {position : Position} {e test yes no rator value : Expr}
  {es rands body : List Expr} {bindings : List (String × Expr)} {x : String}

theorem everywhere_cons_iff : Everywhere P (partsAll position (e :: es)) ↔
    Everywhere P (e.parts position) ∧ Everywhere P (partsAll position es) :=
  List.forall_mem_append

theorem everywhere_values_cons_iff : Everywhere P (partsValues ((x, e) :: bindings)) ↔
    Everywhere P (e.parts .operand) ∧ Everywhere P (partsValues bindings) :=
  List.forall_mem_append

theorem everywhere_all_iff : Everywhere P (partsAll position es) ↔
    ∀ e ∈ es, Everywhere P (e.parts position) := by
  induction es with
  | nil => exact iff_of_true (List.forall_mem_nil _) (List.forall_mem_nil _)
  | cons e es ih => rw [everywhere_cons_iff, List.forall_mem_cons, ih]

theorem everywhere_values_iff : Everywhere P (partsValues bindings) ↔
    ∀ b ∈ bindings, Everywhere P (b.2.parts .operand) := by
  induction bindings with
  | nil => exact iff_of_true (List.forall_mem_nil _) (List.forall_mem_nil _)
  | cons b bindings ih => rw [everywhere_values_cons_iff, List.forall_mem_cons, ih]

theorem everywhere_cond_iff : Everywhere P ((cond test yes no).parts position) ↔
    P position (cond test yes no) ∧ Everywhere P (test.parts .operand) ∧
      Everywhere P (yes.parts .operand) ∧ Everywhere P (no.parts .operand) := by
  rw [parts, Everywhere, List.forall_mem_cons, inner, List.forall_mem_append,
    List.forall_mem_append, and_assoc]
  exact Iff.rfl

theorem everywhere_lambda_iff {proc : Lambda} : Everywhere P ((lambda proc).parts position) ↔
    P position (lambda proc) ∧ Everywhere P (partsAll .sequence proc.body) := by
  cases proc
  exact List.forall_mem_cons

theorem everywhere_app_iff : Everywhere P ((app rator rands).parts position) ↔
    P position (app rator rands) ∧ Everywhere P (rator.parts .operand) ∧
      Everywhere P (partsAll .operand rands) := by
  rw [parts, Everywhere, List.forall_mem_cons, inner, List.forall_mem_append]
  exact Iff.rfl

theorem everywhere_letIn_iff : Everywhere P ((letIn bindings body).parts position) ↔
    P position (letIn bindings body) ∧ Everywhere P (partsValues bindings) ∧
      Everywhere P (partsAll .sequence body) := by
  rw [parts, Everywhere, List.forall_mem_cons, inner, List.forall_mem_append]

theorem everywhere_letRec_iff : Everywhere P ((letRec bindings body).parts position) ↔
    P position (letRec bindings body) ∧ Everywhere P (partsValues bindings) ∧
      Everywhere P (partsAll .sequence body) := by
  rw [parts, Everywhere, List.forall_mem_cons, inner, List.forall_mem_append]

theorem everywhere_assign_iff : Everywhere P ((assign x value).parts position) ↔
    P position (assign x value) ∧ Everywhere P (value.parts .operand) := List.forall_mem_cons

theorem everywhere_define_iff : Everywhere P ((define x value).parts position) ↔
    P position (define x value) ∧ Everywhere P (value.parts .operand) := List.forall_mem_cons

end

def WellFormed (position : Position) (e : Expr) : Prop := Everywhere Regular (e.parts position)

def AllWellFormed (position : Position) (es : List Expr) : Prop :=
  Everywhere Regular (partsAll position es)

def ValuesWellFormed (bindings : List (String × Expr)) : Prop :=
  Everywhere Regular (partsValues bindings)

variable {position : Position} {e test yes no rator value : Expr} {es rands body : List Expr}
  {bindings : List (String × Expr)} {x : String}

theorem WellFormed.regular (h : e.WellFormed position) : e.Regular position :=
  h (position, e) List.mem_cons_self

theorem allWellFormed_cons_iff : AllWellFormed position (e :: es) ↔
    e.WellFormed position ∧ AllWellFormed position es := everywhere_cons_iff

theorem valuesWellFormed_cons_iff : ValuesWellFormed ((x, e) :: bindings) ↔
    e.WellFormed .operand ∧ ValuesWellFormed bindings := everywhere_values_cons_iff

theorem wellFormed_cond_iff : (cond test yes no).WellFormed position ↔
    test.WellFormed .operand ∧ yes.WellFormed .operand ∧ no.WellFormed .operand :=
  everywhere_cond_iff.trans (iff_of_eq (true_and _))

theorem wellFormed_lambda_iff {site : Site} {params : List String} :
    (lambda (.mk site params body)).WellFormed position ↔
      AreNames params ∧ body ≠ [] ∧ AllWellFormed .sequence body :=
  everywhere_lambda_iff.trans and_assoc

theorem wellFormed_app_iff : (app rator rands).WellFormed position ↔
    rator.WellFormed .operand ∧ AllWellFormed .operand rands :=
  everywhere_app_iff.trans (iff_of_eq (true_and _))

theorem wellFormed_letIn_iff : (letIn bindings body).WellFormed position ↔
    AreNames (bindings.map Prod.fst) ∧ body ≠ [] ∧ ValuesWellFormed bindings ∧
      AllWellFormed .sequence body := everywhere_letIn_iff.trans and_assoc

theorem wellFormed_letRec_iff : (letRec bindings body).WellFormed position ↔
    AreNames (bindings.map Prod.fst) ∧ body ≠ [] ∧ ValuesWellFormed bindings ∧
      AllWellFormed .sequence body := everywhere_letRec_iff.trans and_assoc

theorem wellFormed_assign_iff : (assign x value).WellFormed position ↔
    IsName x ∧ value.WellFormed .operand := everywhere_assign_iff

theorem wellFormed_define_iff : (define x value).WellFormed position ↔
    IsName x ∧ position = .sequence ∧ value.WellFormed .operand :=
  everywhere_define_iff.trans and_assoc

end Expr

mutual

def Datum.WellSpelled : Datum → Prop
  | .sym x => isSymbol x.toList = true
  | .list items => Datum.AllWellSpelled items
  | .num _ | .bool _ | .str _ => True

def Datum.AllWellSpelled : List Datum → Prop
  | [] => True
  | d :: ds => d.WellSpelled ∧ Datum.AllWellSpelled ds

end

theorem Datum.allWellSpelled_iff {ds : List Datum} :
    Datum.AllWellSpelled ds ↔ ∀ d ∈ ds, d.WellSpelled := by
  induction ds with
  | nil => exact iff_of_true trivial (List.forall_mem_nil _)
  | cons d ds ih => rw [Datum.AllWellSpelled, List.forall_mem_cons, ih]

namespace Grammar

theorem Atom.wellSpelled {cs : List Char} {d : Datum} (h : Atom cs d) : d.WellSpelled := by
  cases h with
  | symbol hcs hstart h =>
    rw [Datum.WellSpelled, String.toList_ofList]
    exact isSymbol_eq_true_iff.2 ⟨hcs, hstart, h⟩
  | _ => trivial

mutual

theorem IsDatum.wellSpelled : {depth : Nat} → {text : List Char} → {d : Datum} →
    {rest : List Char} → IsDatum depth text d rest → d.WellSpelled
  | _, _, _, _, .quote _ _ h =>
    ⟨(by decide : isSymbol "quote".toList = true), h.wellSpelled, trivial⟩
  | _, _, _, _, .list _ h _ => h.wellSpelled
  | _, _, _, _, .string _ _ => trivial
  | _, _, _, _, .atom _ h _ => h.wellSpelled

theorem AreData.wellSpelled : {depth : Nat} → {text : List Char} → {ds : List Datum} →
    {rest : List Char} → AreData depth text ds rest → Datum.AllWellSpelled ds
  | _, _, _, _, .nil => trivial
  | _, _, _, _, .cons _ h hs => ⟨h.wellSpelled, hs.wellSpelled⟩

end

end Grammar

theorem Datum.wellSpelled_of_readAll {text : List Char} {ds : List Datum}
    (h : readAll text = .ok ds) : AllWellSpelled ds := by
  obtain ⟨_, -, hdata⟩ := readAll_eq_ok_iff_isProgram.1 h
  exact hdata.wellSpelled

theorem Datum.wellSpelled_of_readOne {text : List Char} {d : Datum} (h : readOne text = .ok d) :
    d.WellSpelled :=
  (wellSpelled_of_readAll (readOne_eq_ok_iff.1 h)).1

theorem Value.isData_ofList {vs : List Value} (h : ∀ v ∈ vs, v.IsData) :
    (Value.ofList vs).IsData ∧ (Value.ofList vs).isList = true := by
  refine ⟨?_, by rw [isList, toList?_ofList]; rfl⟩
  induction vs with
  | nil => trivial
  | cons v vs ih =>
    obtain ⟨hv, hvs⟩ := List.forall_mem_cons.1 h
    have hlist : (Value.ofList vs).isList = true := by rw [isList, toList?_ofList]; rfl
    exact ⟨hv, ih hvs, hlist⟩

mutual

theorem Datum.isData_toValue : (d : Datum) → d.WellSpelled → d.toValue.IsData
  | .num _, _ | .bool _, _ | .str _, _ => trivial
  | .sym _, h => h
  | .list ds, h => (Value.isData_ofList (isData_toValues ds h)).1

theorem Datum.isData_toValues : (ds : List Datum) → AllWellSpelled ds →
    ∀ v ∈ toValues ds, v.IsData
  | [], _ => List.forall_mem_nil _
  | d :: ds, h => List.forall_mem_cons.2 ⟨isData_toValue d h.1, isData_toValues ds h.2⟩

end

theorem areNames_of_binders {xs : List String} (h : Binders xs)
    (hspelled : ∀ x ∈ xs, isSymbol x.toList = true) : AreNames xs :=
  ⟨fun x hx => ⟨hspelled x hx, h.bindable x hx⟩, h.nodup⟩

theorem spelled_of_map_sym {xs : List String} (h : Datum.AllWellSpelled (xs.map .sym)) :
    ∀ x ∈ xs, isSymbol x.toList = true := fun _ hx =>
  Datum.allWellSpelled_iff.1 h _ (List.mem_map_of_mem hx)

theorem BuildsAll.ne_nil {site : Site} {position : Position} {i : Nat} {ds : List Datum}
    {es : List Expr} (h : BuildsAll site position i ds es) (hds : ds ≠ []) : es ≠ [] := by
  cases h with
  | nil => exact absurd rfl hds
  | cons => exact List.cons_ne_nil _ _

mutual

theorem Builds.wellFormed : {site : Site} → {position : Position} → {d : Datum} → {e : Expr} →
    Builds site position d e → d.WellSpelled → e.WellFormed position
  | _, _, _, _, .num, _ | _, _, _, _, .bool, _ | _, _, _, _, .str, _ | _, _, _, _, .prim, _ =>
    List.forall_mem_singleton.2 trivial
  | _, _, _, _, .var hx, hd => List.forall_mem_singleton.2 ⟨hd, hx⟩
  | _, _, _, _, .quote (d := d), hd => List.forall_mem_singleton.2 (d.isData_toValue hd.2.1)
  | _, _, _, _, .cond test yes no, hd => by
    obtain ⟨-, ht, hy, hn, -⟩ := hd
    exact Expr.wellFormed_cond_iff.2 ⟨test.wellFormed ht, yes.wellFormed hy, no.wellFormed hn⟩
  | _, _, _, _, .lambda hparams hforms h, hd => by
    obtain ⟨-, hnames, hbody⟩ := hd
    have hparams := areNames_of_binders hparams (spelled_of_map_sym hnames)
    exact Expr.wellFormed_lambda_iff.2 ⟨hparams, h.ne_nil hforms, h.wellFormed hbody⟩
  | _, _, _, _, .letIn hbindings hnames hforms h, hd => by
    obtain ⟨-, hpairs, hbody⟩ := hd
    obtain ⟨hspelled, hvalues⟩ := hbindings.wellFormed hpairs
    have hnames := areNames_of_binders hnames hspelled
    exact Expr.wellFormed_letIn_iff.2 ⟨hnames, h.ne_nil hforms, hvalues, h.wellFormed hbody⟩
  | _, _, _, _, .letRec hbindings hnames hforms h, hd => by
    obtain ⟨-, hpairs, hbody⟩ := hd
    obtain ⟨hspelled, hvalues⟩ := hbindings.wellFormed hpairs
    have hnames := areNames_of_binders hnames hspelled
    exact Expr.wellFormed_letRec_iff.2 ⟨hnames, h.ne_nil hforms, hvalues, h.wellFormed hbody⟩
  | _, _, _, _, .assign hx h, hd => by
    obtain ⟨-, hspelled, hvalue, -⟩ := hd
    exact Expr.wellFormed_assign_iff.2 ⟨⟨hspelled, hx⟩, h.wellFormed hvalue⟩
  | _, _, _, _, .define hx h, hd => by
    obtain ⟨-, hspelled, hvalue, -⟩ := hd
    exact Expr.wellFormed_define_iff.2 ⟨⟨hspelled, hx⟩, rfl, h.wellFormed hvalue⟩
  | _, _, _, _, .procedure hx hparams hforms h, hd => by
    obtain ⟨-, ⟨hspelled, hnames⟩, hbody⟩ := hd
    have hparams := areNames_of_binders hparams (spelled_of_map_sym hnames)
    refine Expr.wellFormed_define_iff.2 ⟨⟨hspelled, hx⟩, rfl, ?_⟩
    exact Expr.wellFormed_lambda_iff.2 ⟨hparams, h.ne_nil hforms, h.wellFormed hbody⟩
  | _, _, _, _, .app _ hrator hrands, hd =>
    Expr.wellFormed_app_iff.2 ⟨hrator.wellFormed hd.1, hrands.wellFormed hd.2⟩

theorem BuildsAll.wellFormed : {site : Site} → {position : Position} → {i : Nat} →
    {ds : List Datum} → {es : List Expr} → BuildsAll site position i ds es →
    Datum.AllWellSpelled ds → Expr.AllWellFormed position es
  | _, _, _, _, _, .nil, _ => List.forall_mem_nil _
  | _, _, _, _, _, .cons head tail, hds =>
    Expr.allWellFormed_cons_iff.2 ⟨head.wellFormed hds.1, tail.wellFormed hds.2⟩

theorem BuildsBindings.wellFormed : {site : Site} → {i : Nat} → {pairs : List Datum} →
    {bindings : List (String × Expr)} → BuildsBindings site i pairs bindings →
    Datum.AllWellSpelled pairs → (∀ x ∈ bindings.map Prod.fst, isSymbol x.toList = true) ∧
      Expr.ValuesWellFormed bindings
  | _, _, _, _, .nil, _ => ⟨List.forall_mem_nil _, List.forall_mem_nil _⟩
  | _, _, _, _, .cons head tail, hpairs => by
    obtain ⟨⟨hspelled, hvalue, -⟩, hpairs⟩ := hpairs
    obtain ⟨hnames, hvalues⟩ := tail.wellFormed hpairs
    exact ⟨List.forall_mem_cons.2 ⟨hspelled, hnames⟩,
      Expr.valuesWellFormed_cons_iff.2 ⟨head.wellFormed hvalue, hvalues⟩⟩

end

theorem mapError_eq_ok_iff {ε δ α : Type} {x : Except ε α} {f : ε → δ} {a : α} :
    x.mapError f = .ok a ↔ x = .ok a := by
  cases x with
  | error e => exact iff_of_false nofun nofun
  | ok b =>
    constructor
    · intro h
      cases h
      rfl
    · intro h
      cases h
      rfl

theorem Expr.ofSource_eq_ok_iff {comments : Bool} {base : Nat} {source : String} {e : Expr} :
    ofSource comments base source = .ok e ↔
      ∃ d, Datum.readOne (readable comments source) = .ok d ∧ Builds [base] .sequence d e := by
  simp only [← ofDatum_eq_ok_iff]
  rw [ofSource, mapError_eq_ok_iff, bind_eq_ok_iff]

theorem Program.wellFormed_of_ofSource {comments : Bool} {base : Nat} {source : String}
    {forms : List Expr} (h : ofSource comments base source = .ok forms) :
    Expr.AllWellFormed .sequence forms := by
  obtain ⟨ds, hds, hforms⟩ := ofSource_eq_ok_iff.1 h
  exact (ofData_eq_ok_iff.1 hforms).wellFormed (Datum.wellSpelled_of_readAll hds)

/-- All that is parsed, be it one expression or the forms of a program, obeys the rules at every
depth. -/
theorem parsed_wellFormed :
    (∀ comments base source e, Expr.ofSource comments base source = .ok e →
      e.WellFormed .sequence) ∧
    ∀ comments base source forms, Program.ofSource comments base source = .ok forms →
      ∀ e ∈ forms, e.WellFormed .sequence := by
  refine ⟨?_, ?_⟩
  · intro comments base source e h
    obtain ⟨d, hd, hbuilds⟩ := Expr.ofSource_eq_ok_iff.1 h
    exact hbuilds.wellFormed (Datum.wellSpelled_of_readOne hd)
  · intro comments base source forms h e he
    exact Expr.everywhere_all_iff.1 (Program.wellFormed_of_ofSource h) e he

theorem parsed_wellFormed_procedure :
    (∃ e, Expr.ofSource true 0 "(define (f x) (define y x) y)" = .ok e ∧
      e.WellFormed .sequence) ∧
    ∃ e, Program.ofSource false 3 "(set! f '(a 1))" = .ok [e] ∧ e.WellFormed .sequence := by
  have hprocedure : Expr.ofSource true 0 "(define (f x) (define y x) y)" =
      .ok (.define "f" (.lambda (.mk [0] ["x"] [.define "y" (.var "x"), .var "y"]))) := by
    refine Expr.ofSource_eq_ok_iff.2 ⟨.list [.sym "define", .list [.sym "f", .sym "x"],
      .list [.sym "define", .sym "y", .sym "x"], .sym "y"], readOne_eq_ok_iff.2 rfl, ?_⟩
    exact ofDatum_eq_ok_iff.1 rfl
  have hassignment : Program.ofSource false 3 "(set! f '(a 1))" =
      .ok [.assign "f" (.quote (.ofList [.sym "a", .num 1]))] := by
    refine Program.ofSource_eq_ok_iff.2 ⟨[.list [.sym "set!", .sym "f",
      .list [.sym "quote", .list [.sym "a", .num 1]]]], rfl, rfl⟩
  exact ⟨⟨_, hprocedure, parsed_wellFormed.1 _ _ _ _ hprocedure⟩, _, hassignment,
    parsed_wellFormed.2 _ _ _ _ hassignment _ List.mem_cons_self⟩

end CallByName
