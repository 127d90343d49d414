import CallByName.Expr.Equality
import CallByName.Proofs.Equality
import CallByName.Proofs.Writing

/-! Parsing undoes printing. The text of a well-formed expression spells one datum, from which the
expression is built again; only a number, boolean or string behind a quote mark comes back without
it, for the mark is not written. -/

namespace CallByName

open Grammar (Spells)

mutual

def Value.datum : Value → Datum
  | num n => .num n
  | bool b => .bool b
  | str s => .str s
  | sym x => .sym x
  | pair car cdr => .list (car.datum :: cdr.items)
  | nil | prim _ | closure .. => .list []

def Value.items : Value → List Datum
  | pair car cdr => car.datum :: cdr.items
  | num _ | bool _ | str _ | sym _ | nil | prim _ | closure .. => []

end

def Value.literal? : Value → Option Expr
  | num n => some (.num n)
  | bool b => some (.bool b)
  | str s => some (.str s)
  | _ => none

def Value.quotedDatum (v : Value) : Datum :=
  match v.literal? with
  | some _ => v.datum
  | none => .list [Keyword.quote.datum, v.datum]

mutual

def Expr.datum : Expr → Datum
  | .num n => .num n
  | .bool b => .bool b
  | .str s => .str s
  | .prim op => .sym op.name
  | .var x => .sym x
  | .cond test yes no => .list [Keyword.cond.datum, test.datum, yes.datum, no.datum]
  | .lambda proc => proc.datum
  | .app rator rands => .list (rator.datum :: Expr.data rands)
  | .letIn bindings body =>
    .list (Keyword.letIn.datum :: .list (Expr.bindingData bindings) :: Expr.data body)
  | .letRec bindings body =>
    .list (Keyword.letRec.datum :: .list (Expr.bindingData bindings) :: Expr.data body)
  | .assign x value => .list [Keyword.assign.datum, .sym x, value.datum]
  | .quote v => v.quotedDatum
  | .define x value => .list [Keyword.define.datum, .sym x, value.datum]

def Lambda.datum : Lambda → Datum
  | .mk _ params body =>
    .list (Keyword.lambda.datum :: .list (params.map .sym) :: Expr.data body)

def Expr.data : List Expr → List Datum
  | [] => []
  | e :: es => e.datum :: Expr.data es

def Expr.bindingData : List (String × Expr) → List Datum
  | [] => []
  | (x, e) :: bindings => .list [.sym x, e.datum] :: Expr.bindingData bindings

end

mutual

def Expr.unquoted : Expr → Expr
  | .num n => .num n
  | .bool b => .bool b
  | .str s => .str s
  | .prim op => .prim op
  | .var x => .var x
  | .cond test yes no => .cond test.unquoted yes.unquoted no.unquoted
  | .lambda proc => .lambda proc.unquoted
  | .app rator rands => .app rator.unquoted (Expr.unquotedAll rands)
  | .letIn bindings body => .letIn (Expr.unquotedValues bindings) (Expr.unquotedAll body)
  | .letRec bindings body => .letRec (Expr.unquotedValues bindings) (Expr.unquotedAll body)
  | .assign x value => .assign x value.unquoted
  | .quote v => v.literal?.getD (.quote v)
  | .define x value => .define x value.unquoted

def Lambda.unquoted : Lambda → Lambda
  | .mk site params body => .mk site params (Expr.unquotedAll body)

def Expr.unquotedAll : List Expr → List Expr
  | [] => []
  | e :: es => e.unquoted :: Expr.unquotedAll es

def Expr.unquotedValues : List (String × Expr) → List (String × Expr)
  | [] => []
  | (x, e) :: bindings => (x, e.unquoted) :: Expr.unquotedValues bindings

end

mutual

theorem Value.toValue_datum : (v : Value) → v.IsData → v.datum.toValue = v
  | .num _, _ | .bool _, _ | .str _, _ | .sym _, _ | .nil, _ => rfl
  | .pair car cdr, ⟨hcar, hcdr, hlist⟩ => by
    have htail := ofList_items cdr hcdr hlist
    rw [Value.datum, Datum.toValue, Datum.toValues, toValue_datum car hcar]
    rw [ofList] at htail ⊢
    rw [chain_cons, htail]

theorem Value.ofList_items : (v : Value) → v.IsData → v.isList = true →
    ofList (Datum.toValues v.items) = v
  | .nil, _, _ => rfl
  | .pair car cdr, ⟨hcar, hcdr, hlist⟩, _ => by
    have htail := ofList_items cdr hcdr hlist
    rw [items, Datum.toValues, toValue_datum car hcar]
    rw [ofList] at htail ⊢
    rw [chain_cons, htail]

end

mutual

theorem Value.wellSpelled_datum : (v : Value) → v.IsData → v.datum.WellSpelled
  | .num _, _ | .bool _, _ | .str _, _ | .nil, _ => trivial
  | .sym _, h => h
  | .pair car cdr, ⟨hcar, hcdr, _⟩ => ⟨wellSpelled_datum car hcar, wellSpelled_items cdr hcdr⟩

theorem Value.wellSpelled_items : (v : Value) → v.IsData → Datum.AllWellSpelled v.items
  | .num _, _ | .bool _, _ | .str _, _ | .sym _, _ | .nil, _ => trivial
  | .pair car cdr, ⟨hcar, hcdr, _⟩ => ⟨wellSpelled_datum car hcar, wellSpelled_items cdr hcdr⟩

end

mutual

theorem Value.text_datum : (v : Value) → v.IsData → v.datum.text = v.text
  | .num _, _ | .bool _, _ | .str _, _ | .sym _, _ | .nil, _ => rfl
  | .pair car cdr, ⟨hcar, hcdr, hlist⟩ => by
    rw [Value.datum, Datum.text, Datum.texts, text_datum car hcar,
      intercalate_items cdr hcdr hlist, Value.text]
    simp only [String.append_assoc]

theorem Value.intercalate_items : (v : Value) → v.IsData → v.isList = true → {s : String} →
    " ".intercalate (s :: Datum.texts v.items) = s ++ v.tailText
  | .nil, _, _, s => by
    rw [items, Datum.texts, String.intercalate_singleton, tailText, String.append_empty]
  | .pair car cdr, ⟨hcar, hcdr, hlist⟩, _, s => by
    rw [items, Datum.texts, String.intercalate_cons_cons, text_datum car hcar,
      intercalate_items cdr hcdr hlist, tailText]
    simp only [String.append_assoc]

end

theorem Value.spells_text {v : Value} {level : Nat} (h : v.IsData) (hfits : v.datum.FitsAt level) :
    Spells level v.text v.datum := by
  rw [← text_datum v h]
  exact v.datum.spells_text (wellSpelled_datum v h) hfits

theorem Value.spells_quotedText {v : Value} {level : Nat} (h : v.IsData)
    (hfits : v.quotedDatum.FitsAt level) : Spells level v.quotedText v.quotedDatum := by
  have hquoted (hdatum : v.quotedDatum = .list [Keyword.quote.datum, v.datum]) :
      Spells level ("'" ++ v.text) v.quotedDatum := by
    rw [hdatum] at hfits ⊢
    obtain ⟨hlevel, -, hfits, -⟩ := hfits
    exact Grammar.spells_quote (spells_text h hfits) (Nat.le_succ_of_le hlevel)
  cases v with
  | num n => exact spells_text h hfits
  | bool b => exact spells_text h hfits
  | str s => exact spells_text h hfits
  | sym x => exact hquoted rfl
  | nil => exact hquoted rfl
  | pair car cdr => exact hquoted rfl
  | prim op => exact h.elim
  | closure proc env => exact h.elim

theorem Prim.isSymbol_name (op : Prim) : CallByName.isSymbol op.name.toList = true := by
  cases op <;> decide

theorem Keyword.isSymbol_name (k : Keyword) : isSymbol k.name.toList = true := by
  cases k <;> decide

theorem Keyword.spells_name (k : Keyword) {level : Nat} (hlevel : level ≤ 63) :
    Spells level k.name k.datum := Grammar.spells_atom (Grammar.atom_symbol k.isSymbol_name) hlevel

theorem spells_names {xs : List String} {level : Nat} (hxs : ∀ x ∈ xs, IsName x)
    (hfit : Datum.AllFitAt level (xs.map .sym)) :
    List.Forall₂ (Spells level) xs (xs.map .sym) := by
  induction xs with
  | nil => exact .nil
  | cons x xs ih =>
    obtain ⟨hx, hxs⟩ := List.forall_mem_cons.1 hxs
    exact .cons (Grammar.spells_atom (Grammar.atom_symbol hx.spelled) hfit.1) (ih hxs hfit.2)

section

variable {k : Keyword} {level : Nat} {opening : String}

theorem Keyword.spells_group {group body : List String} {ds es : List Datum}
    (hopen : opening = "(" ++ k.name ++ " " ++ "(") (hne : body ≠ []) (hlevel : level ≤ 62)
    (hword : level + 1 ≤ 63) (hinner : level + 1 ≤ 62)
    (hgroup : List.Forall₂ (Spells (level + 1 + 1)) group ds)
    (hbody : List.Forall₂ (Spells (level + 1)) body es) :
    Spells level (opening ++ " ".intercalate group ++ ") " ++ " ".intercalate body ++ ")")
      (.list (k.datum :: .list ds :: es)) := by
  have hclose : ") " = ")" ++ " " := by decide
  have htext : opening ++ " ".intercalate group ++ ") " ++ " ".intercalate body ++ ")" =
      "(" ++ " ".intercalate (k.name :: ("(" ++ " ".intercalate group ++ ")") :: body) ++ ")" := by
    rw [hopen, hclose, String.intercalate_cons_cons, String.intercalate_cons_of_ne_nil hne]
    simp only [String.append_assoc]
  rw [htext]
  exact Grammar.spells_list
    (.cons (k.spells_name hword) (.cons (Grammar.spells_list hgroup hinner) hbody)) hlevel

theorem Keyword.spells_two {first second : String} {d e : Datum}
    (hopen : opening = "(" ++ k.name ++ " ") (hlevel : level ≤ 62) (hword : level + 1 ≤ 63)
    (hfirst : Spells (level + 1) first d) (hsecond : Spells (level + 1) second e) :
    Spells level (opening ++ first ++ " " ++ second ++ ")") (.list [k.datum, d, e]) := by
  have htext : opening ++ first ++ " " ++ second ++ ")" =
      "(" ++ " ".intercalate [k.name, first, second] ++ ")" := by
    rw [hopen, String.intercalate_cons_cons, String.intercalate_cons_cons,
      String.intercalate_singleton]
    simp only [String.append_assoc]
  rw [htext]
  exact Grammar.spells_list (.cons (k.spells_name hword) (.cons hfirst (.cons hsecond .nil))) hlevel

end

namespace Expr

theorem text_cond (test yes no : Expr) : (cond test yes no).text =
    "(" ++ " ".intercalate [Keyword.cond.name, test.text, yes.text, no.text] ++ ")" := by
  have hopen : "(if " = "(" ++ Keyword.cond.name ++ " " := by decide
  rw [text, hopen, String.intercalate_cons_cons, String.intercalate_cons_cons,
    String.intercalate_cons_cons, String.intercalate_singleton]
  simp only [String.append_assoc]

theorem data_ne_nil {es : List Expr} (h : es ≠ []) : data es ≠ [] := by
  cases es with
  | nil => exact absurd rfl h
  | cons e es => exact List.cons_ne_nil _ _

theorem texts_ne_nil {es : List Expr} (h : es ≠ []) : texts es ≠ [] := by
  rw [texts_eq_map]
  exact fun hnil => h (List.map_eq_nil_iff.1 hnil)

theorem text_binding (x : String) (e : Expr) : "(" ++ x ++ " " ++ e.text ++ ")" =
    "(" ++ " ".intercalate [x, e.text] ++ ")" := by
  rw [String.intercalate_cons_cons, String.intercalate_singleton]
  simp only [String.append_assoc]

mutual

theorem spells_text : (e : Expr) → {position : Position} → {level : Nat} →
    e.WellFormed position → e.datum.FitsAt level → Spells level e.text e.datum
  | .num n, _, _, _, hlevel => Grammar.spells_atom (Grammar.atom_number n) hlevel
  | .bool b, _, _, _, hlevel => Grammar.spells_atom (Grammar.atom_bool b) hlevel
  | .str s, _, _, _, hlevel => Grammar.spells_string s hlevel
  | .prim op, _, _, _, hlevel =>
    Grammar.spells_atom (Grammar.atom_symbol op.isSymbol_name) hlevel
  | .var x, _, _, h, hlevel =>
    Grammar.spells_atom (Grammar.atom_symbol h.regular.spelled) hlevel
  | .quote v, _, _, h, hfits => Value.spells_quotedText h.regular hfits
  | .cond test yes no, _, _, h, ⟨hlevel, hword, ht, hy, hn, _⟩ => by
    obtain ⟨htest, hyes, hno⟩ := wellFormed_cond_iff.1 h
    rw [text_cond]
    have hparts := List.Forall₂.cons (test.spells_text htest ht)
      (.cons (yes.spells_text hyes hy) (.cons (no.spells_text hno hn) .nil))
    exact Grammar.spells_list (.cons (Keyword.cond.spells_name hword) hparts) hlevel
  | .lambda proc, _, _, h, hfits => spells_lambda proc h hfits
  | .app rator rands, _, _, h, ⟨hlevel, hfits, hfit⟩ => by
    obtain ⟨hrator, hrands⟩ := wellFormed_app_iff.1 h
    exact Grammar.spells_list
      (.cons (rator.spells_text hrator hfits) (spells_texts rands hrands hfit)) hlevel
  | .letIn bindings body, _, _, h, ⟨hlevel, hword, ⟨hinner, hvaluesFit⟩, hbodyFit⟩ => by
    obtain ⟨hnames, hbody, hvalues, hforms⟩ := wellFormed_letIn_iff.1 h
    exact Keyword.letIn.spells_group (by decide) (texts_ne_nil hbody) hlevel hword hinner
      (spells_bindingTexts bindings hnames.areNames hvalues hvaluesFit)
      (spells_texts body hforms hbodyFit)
  | .letRec bindings body, _, _, h, ⟨hlevel, hword, ⟨hinner, hvaluesFit⟩, hbodyFit⟩ => by
    obtain ⟨hnames, hbody, hvalues, hforms⟩ := wellFormed_letRec_iff.1 h
    exact Keyword.letRec.spells_group (by decide) (texts_ne_nil hbody) hlevel hword hinner
      (spells_bindingTexts bindings hnames.areNames hvalues hvaluesFit)
      (spells_texts body hforms hbodyFit)
  | .assign x value, _, _, h, ⟨hlevel, hword, hx, hfits, _⟩ => by
    obtain ⟨hname, hvalue⟩ := wellFormed_assign_iff.1 h
    exact Keyword.assign.spells_two (by decide) hlevel hword
      (Grammar.spells_atom (Grammar.atom_symbol hname.spelled) hx) (value.spells_text hvalue hfits)
  | .define x value, _, _, h, ⟨hlevel, hword, hx, hfits, _⟩ => by
    obtain ⟨hname, -, hvalue⟩ := wellFormed_define_iff.1 h
    exact Keyword.define.spells_two (by decide) hlevel hword
      (Grammar.spells_atom (Grammar.atom_symbol hname.spelled) hx) (value.spells_text hvalue hfits)

theorem spells_lambda : (proc : Lambda) → {position : Position} → {level : Nat} →
    (Expr.lambda proc).WellFormed position → proc.datum.FitsAt level →
    Spells level proc.text proc.datum
  | .mk site params body, _, _, h, ⟨hlevel, hword, ⟨hinner, hparamsFit⟩, hbodyFit⟩ => by
    obtain ⟨hparams, hbody, hforms⟩ := Expr.wellFormed_lambda_iff.1 h
    exact Keyword.lambda.spells_group (by decide) (texts_ne_nil hbody) hlevel hword hinner
      (spells_names hparams.areNames hparamsFit) (spells_texts body hforms hbodyFit)

theorem spells_texts : (es : List Expr) → {position : Position} → {level : Nat} →
    AllWellFormed position es → Datum.AllFitAt level (data es) →
    List.Forall₂ (Spells level) (texts es) (data es)
  | [], _, _, _, _ => .nil
  | e :: es, _, _, h, ⟨hfits, hfit⟩ => by
    obtain ⟨he, hes⟩ := allWellFormed_cons_iff.1 h
    exact .cons (e.spells_text he hfits) (spells_texts es hes hfit)

theorem spells_bindingTexts : (bindings : List (String × Expr)) → {level : Nat} →
    (∀ x ∈ bindings.map Prod.fst, IsName x) → ValuesWellFormed bindings →
    Datum.AllFitAt level (bindingData bindings) →
    List.Forall₂ (Spells level) (bindingTexts bindings) (bindingData bindings)
  | [], _, _, _, _ => .nil
  | (x, e) :: bindings, _, hnames, h, ⟨⟨hlevel, hx, hfits, _⟩, hfit⟩ => by
    obtain ⟨hname, hnames⟩ := List.forall_mem_cons.1 hnames
    obtain ⟨he, hvalues⟩ := valuesWellFormed_cons_iff.1 h
    rw [bindingTexts, text_binding]
    exact .cons (Grammar.spells_list
        (.cons (Grammar.spells_atom (Grammar.atom_symbol hname.spelled) hx)
          (.cons (e.spells_text he hfits) .nil)) hlevel)
      (spells_bindingTexts bindings hnames hvalues hfit)

end

end Expr

structure Expr.Restores (site : Site) (position : Position) (e e' : Expr) : Prop where
  builds : Builds site position e.datum e'
  same : e'.beq e.unquoted = true
  text : e'.text = e.text

structure Expr.RestoresAll (site : Site) (position : Position) (i : Nat) (es es' : List Expr) :
    Prop where
  builds : BuildsAll site position i (Expr.data es) es'
  same : Expr.beqAll es' (Expr.unquotedAll es) = true
  texts : Expr.texts es' = Expr.texts es

structure Expr.RestoresValues (site : Site) (i : Nat) (bindings bindings' : List (String × Expr)) :
    Prop where
  builds : BuildsBindings site i (Expr.bindingData bindings) bindings'
  names : bindings'.map Prod.fst = bindings.map Prod.fst
  same : Expr.beqBindings bindings' (Expr.unquotedValues bindings) = true
  texts : Expr.bindingTexts bindings' = Expr.bindingTexts bindings

theorem AreNames.binders {xs : List String} (h : AreNames xs) : Binders xs :=
  ⟨fun x hx => (h.areNames x hx).bindable, h.nodup⟩

namespace Expr

variable {position : Position}

theorem restores_quote {v : Value} (h : v.IsData) (site : Site) :
    ∃ e', Restores site position (quote v) e' := by
  have hquoted (hdatum : (quote v).datum = .list [Keyword.quote.datum, v.datum])
      (hunquoted : (quote v).unquoted = quote v) : ∃ e', Restores site position (quote v) e' := by
    refine ⟨quote v, ?_, ?_, rfl⟩
    · have hbuilds : Builds site position (.list [Keyword.quote.datum, v.datum]) _ := .quote
      rwa [v.toValue_datum h, ← hdatum] at hbuilds
    · rw [hunquoted, Expr.beq]
      exact v.beq_self
  cases v with
  | num n => exact ⟨num n, .num, by simp [unquoted, Value.literal?, Expr.beq], rfl⟩
  | bool b => exact ⟨bool b, .bool, by simp [unquoted, Value.literal?, Expr.beq], rfl⟩
  | str s => exact ⟨str s, .str, by simp [unquoted, Value.literal?, Expr.beq], rfl⟩
  | sym x => exact hquoted rfl rfl
  | nil => exact hquoted rfl rfl
  | pair car cdr => exact hquoted rfl rfl
  | prim op => exact h.elim
  | closure proc env => exact h.elim

theorem keyword?_datum {e : Expr} (h : e.WellFormed position) : keyword? e.datum = none := by
  cases e with
  | prim op => exact op.keyword_ofName?_name
  | var x => exact h.regular.bindable.1
  | quote v =>
    have hdata : v.IsData := h.regular
    cases v with
    | prim op => exact hdata.elim
    | closure proc env => exact hdata.elim
    | _ => rfl
  | lambda proc =>
    cases proc
    rfl
  | _ => rfl

mutual

theorem exists_restores : (e : Expr) → {position : Position} → e.WellFormed position →
    (site : Site) → ∃ e', Restores site position e e'
  | .num n, _, _, _ => ⟨num n, .num, by simp [unquoted, Expr.beq], rfl⟩
  | .bool b, _, _, _ => ⟨bool b, .bool, by simp [unquoted, Expr.beq], rfl⟩
  | .str s, _, _, _ => ⟨str s, .str, by simp [unquoted, Expr.beq], rfl⟩
  | .prim op, _, _, _ => ⟨prim op, .prim, by simp [unquoted, Expr.beq], rfl⟩
  | .var x, _, h, _ => ⟨var x, .var h.regular.bindable, by simp [unquoted, Expr.beq], rfl⟩
  | .quote v, _, h, site => restores_quote h.regular site
  | .cond test yes no, _, h, site => by
    obtain ⟨htest, hyes, hno⟩ := wellFormed_cond_iff.1 h
    obtain ⟨t, ht⟩ := exists_restores test htest (0 :: site)
    obtain ⟨y, hy⟩ := exists_restores yes hyes (1 :: site)
    obtain ⟨n, hn⟩ := exists_restores no hno (2 :: site)
    refine ⟨cond t y n, .cond ht.builds hy.builds hn.builds, ?_, ?_⟩
    · rw [unquoted, Expr.beq, ht.same, hy.same, hn.same]
      rfl
    · rw [text, ht.text, hy.text, hn.text, text]
  | .lambda proc, _, h, site => by
    obtain ⟨body, hbuilds, hsame, htext⟩ := exists_restores_lambda proc h site
    exact ⟨lambda _, hbuilds, hsame, htext⟩
  | .app rator rands, _, h, site => by
    obtain ⟨hrator, hrands⟩ := wellFormed_app_iff.1 h
    obtain ⟨f, hf⟩ := exists_restores rator hrator (0 :: site)
    obtain ⟨es, hes⟩ := exists_restoresAll rands hrands site 1
    refine ⟨app f es, .app (keyword?_datum hrator) hf.builds hes.builds, ?_, ?_⟩
    · rw [unquoted, Expr.beq, hf.same, hes.same]
      rfl
    · rw [text, hf.text, hes.texts, text]
  | .letIn bindings body, _, h, site => by
    obtain ⟨hnames, hne, hvalues, hforms⟩ := wellFormed_letIn_iff.1 h
    obtain ⟨bs, hbs⟩ := exists_restoresValues bindings hvalues (0 :: site) 0
    obtain ⟨es, hes⟩ := exists_restoresAll body hforms site 1
    refine ⟨letIn bs es, .letIn hbs.builds ?_ ?_ hes.builds, ?_, ?_⟩
    · rw [hbs.names]
      exact hnames.binders
    · exact data_ne_nil hne
    · rw [unquoted, Expr.beq, hbs.same, hes.same]
      rfl
    · rw [text, hbs.texts, hes.texts, text]
  | .letRec bindings body, _, h, site => by
    obtain ⟨hnames, hne, hvalues, hforms⟩ := wellFormed_letRec_iff.1 h
    obtain ⟨bs, hbs⟩ := exists_restoresValues bindings hvalues (0 :: site) 0
    obtain ⟨es, hes⟩ := exists_restoresAll body hforms site 1
    refine ⟨letRec bs es, .letRec hbs.builds ?_ ?_ hes.builds, ?_, ?_⟩
    · rw [hbs.names]
      exact hnames.binders
    · exact data_ne_nil hne
    · rw [unquoted, Expr.beq, hbs.same, hes.same]
      rfl
    · rw [text, hbs.texts, hes.texts, text]
  | .assign x value, _, h, site => by
    obtain ⟨hname, hvalue⟩ := wellFormed_assign_iff.1 h
    obtain ⟨v, hv⟩ := exists_restores value hvalue (0 :: site)
    refine ⟨assign x v, .assign hname.bindable hv.builds, ?_, ?_⟩
    · rw [unquoted, Expr.beq, hv.same, beq_self_eq_true]
      rfl
    · rw [text, hv.text, text]
  | .define x value, _, h, site => by
    obtain ⟨hname, rfl, hvalue⟩ := wellFormed_define_iff.1 h
    obtain ⟨v, hv⟩ := exists_restores value hvalue (0 :: site)
    refine ⟨define x v, .define hname.bindable hv.builds, ?_, ?_⟩
    · rw [unquoted, Expr.beq, hv.same, beq_self_eq_true]
      rfl
    · rw [text, hv.text, text]

theorem exists_restores_lambda : (proc : Lambda) → {position : Position} →
    (lambda proc).WellFormed position → (site : Site) →
    ∃ proc', Restores site position (lambda proc) (lambda proc')
  | .mk _ params body, _, h, site => by
    obtain ⟨hparams, hne, hforms⟩ := wellFormed_lambda_iff.1 h
    obtain ⟨es, hes⟩ := exists_restoresAll body hforms site 1
    refine ⟨.mk site params es, .lambda hparams.binders (data_ne_nil hne) hes.builds, ?_, ?_⟩
    · rw [unquoted, Lambda.unquoted, Expr.beq, Lambda.beq, hes.same, beq_self_eq_true]
      rfl
    · rw [text, Lambda.text, hes.texts, text, Lambda.text]

theorem exists_restoresAll : (es : List Expr) → {position : Position} →
    AllWellFormed position es → (site : Site) → (i : Nat) →
    ∃ es', RestoresAll site position i es es'
  | [], _, _, _, _ => ⟨[], .nil, by rw [unquotedAll, beqAll], rfl⟩
  | e :: es, _, h, site, i => by
    obtain ⟨he, hes⟩ := allWellFormed_cons_iff.1 h
    obtain ⟨e', he'⟩ := exists_restores e he (i :: site)
    obtain ⟨es', hes'⟩ := exists_restoresAll es hes site (i + 1)
    refine ⟨e' :: es', .cons he'.builds hes'.builds, ?_, ?_⟩
    · rw [unquotedAll, beqAll, he'.same, hes'.same]
      rfl
    · rw [texts, he'.text, hes'.texts, texts]

theorem exists_restoresValues : (bindings : List (String × Expr)) → ValuesWellFormed bindings →
    (site : Site) → (i : Nat) → ∃ bindings', RestoresValues site i bindings bindings'
  | [], _, _, _ => ⟨[], .nil, rfl, by rw [unquotedValues, beqBindings], rfl⟩
  | (x, e) :: bindings, h, site, i => by
    obtain ⟨he, hvalues⟩ := valuesWellFormed_cons_iff.1 h
    obtain ⟨e', he'⟩ := exists_restores e he (i :: site)
    obtain ⟨bs, hbs⟩ := exists_restoresValues bindings hvalues site (i + 1)
    refine ⟨(x, e') :: bs, .cons he'.builds hbs.builds, ?_, ?_, ?_⟩
    · rw [List.map_cons, List.map_cons, hbs.names]
    · rw [unquotedValues, beqBindings, he'.same, hbs.same, beq_self_eq_true]
      rfl
    · rw [bindingTexts, he'.text, hbs.texts, bindingTexts]

end

def KeepsQuote : Expr → Prop
  | quote v => v.literal? = none
  | num _ | bool _ | str _ | prim _ | var _ | cond .. | lambda _ | app .. | letIn .. | letRec ..
  | assign .. | define .. => True

mutual

theorem unquoted_eq : (e : Expr) → {position : Position} →
    Everywhere (fun _ => KeepsQuote) (e.parts position) → e.unquoted = e
  | .num _, _, _ | .bool _, _, _ | .str _, _, _ | .prim _, _, _ | .var _, _, _ => by rw [unquoted]
  | .quote v, _, h => by
    have hv : v.literal? = none := h _ List.mem_cons_self
    rw [unquoted, hv, Option.getD_none]
  | .cond test yes no, _, h => by
    obtain ⟨-, htest, hyes, hno⟩ := everywhere_cond_iff.1 h
    rw [unquoted, unquoted_eq test htest, unquoted_eq yes hyes, unquoted_eq no hno]
  | .lambda (.mk site params body), _, h => by
    obtain ⟨-, hbody⟩ := everywhere_lambda_iff.1 h
    rw [unquoted, Lambda.unquoted, unquotedAll_eq body hbody]
  | .app rator rands, _, h => by
    obtain ⟨-, hrator, hrands⟩ := everywhere_app_iff.1 h
    rw [unquoted, unquoted_eq rator hrator, unquotedAll_eq rands hrands]
  | .letIn bindings body, _, h => by
    obtain ⟨-, hvalues, hbody⟩ := everywhere_letIn_iff.1 h
    rw [unquoted, unquotedValues_eq bindings hvalues, unquotedAll_eq body hbody]
  | .letRec bindings body, _, h => by
    obtain ⟨-, hvalues, hbody⟩ := everywhere_letRec_iff.1 h
    rw [unquoted, unquotedValues_eq bindings hvalues, unquotedAll_eq body hbody]
  | .assign x value, _, h => by
    rw [unquoted, unquoted_eq value (everywhere_assign_iff.1 h).2]
  | .define x value, _, h => by
    rw [unquoted, unquoted_eq value (everywhere_define_iff.1 h).2]

theorem unquotedAll_eq : (es : List Expr) → {position : Position} →
    Everywhere (fun _ => KeepsQuote) (partsAll position es) → unquotedAll es = es
  | [], _, _ => by rw [unquotedAll]
  | e :: es, _, h => by
    obtain ⟨he, hes⟩ := everywhere_cons_iff.1 h
    rw [unquotedAll, unquoted_eq e he, unquotedAll_eq es hes]

theorem unquotedValues_eq : (bindings : List (String × Expr)) →
    Everywhere (fun _ => KeepsQuote) (partsValues bindings) → unquotedValues bindings = bindings
  | [], _ => by rw [unquotedValues]
  | (x, e) :: bindings, h => by
    obtain ⟨he, hvalues⟩ := everywhere_values_cons_iff.1 h
    rw [unquotedValues, unquoted_eq e he, unquotedValues_eq bindings hvalues]

end

theorem readOne_text {e : Expr} (h : e.WellFormed position) (hfits : e.datum.FitsAt 0)
    (comments : Bool) : Datum.readOne (readable comments e.text) = .ok e.datum :=
  readOne_eq_ok_iff.2 (readAll_of_spells (spells_text e h hfits) comments)

end Expr

/-- The text of a well-formed expression, if nothing in it lies too deep, is parsed as the
expression with plain literals for quoted numbers, booleans and strings. That has the same text, and
it equals the expression where no such literal is quoted. -/
theorem text_parses_back {e : Expr} (h : e.WellFormed .sequence) (hfits : e.datum.FitsAt 0)
    (comments : Bool) (base : Nat) :
    ∃ e', Expr.ofSource comments base e.text = .ok e' ∧ (e' == e.unquoted) = true ∧
      e'.text = e.text ∧
      (Everywhere (fun _ => Expr.KeepsQuote) (e.parts .sequence) → (e' == e) = true) := by
  obtain ⟨e', he'⟩ := Expr.exists_restores e h [base]
  refine ⟨e', ?_, he'.same, he'.text, ?_⟩
  · exact Expr.ofSource_eq_ok_iff.2 ⟨e.datum, Expr.readOne_text h hfits comments, he'.builds⟩
  · intro hkeeps
    have hsame := he'.same
    rwa [Expr.unquoted_eq e hkeeps] at hsame

theorem text_parses_back_application :
    ∃ e', Expr.ofSource true 0 (Expr.app (.prim .list)
        [.quote (.num 1), .quote (.ofList [.sym ".", .str ";"])]).text = .ok e' ∧
      (e' == Expr.app (.prim .list) [.num 1, .quote (.ofList [.sym ".", .str ";"])]) = true := by
  have hlist : (Value.ofList [.sym ".", .str ";"]).IsData :=
    ⟨(by decide : isSymbol ".".toList = true), ⟨trivial, trivial, rfl⟩, rfl⟩
  have hwell : (Expr.app (.prim .list)
      [.quote (.num 1), .quote (.ofList [.sym ".", .str ";"])]).WellFormed .sequence := by
    rw [Expr.wellFormed_app_iff, Expr.allWellFormed_cons_iff, Expr.allWellFormed_cons_iff]
    exact ⟨List.forall_mem_singleton.2 trivial, List.forall_mem_singleton.2 trivial,
      List.forall_mem_singleton.2 hlist, List.forall_mem_nil _⟩
  have hfits : (Expr.app (.prim .list)
      [.quote (.num 1), .quote (.ofList [.sym ".", .str ";"])]).datum.FitsAt 0 := by
    simp [Expr.datum, Expr.data, Value.quotedDatum, Value.literal?, Value.datum, Value.items,
      Value.ofList, Datum.FitsAt, Datum.AllFitAt]
  obtain ⟨e', hparsed, hsame, -⟩ := text_parses_back hwell hfits true 0
  exact ⟨e', hparsed, hsame⟩

end CallByName
