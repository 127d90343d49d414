import CallByName.Proofs.Literals
import CallByName.Proofs.Renumbering

/-! Forms with other numbers. Conversion puts the number of a form into the places of its lambdas
and nowhere else, so a text whose forms are numbered otherwise is converted to the same forms with
the other numbers in them, or refused with the same report. -/

namespace CallByName

theorem Value.renumber_of_closures_eq_nil (ν : Renumbering) :
    (v : Value) → v.closures = [] → v.renumber ν = v
  | num _, _ | bool _, _ | str _, _ | sym _, _ | nil, _ | prim _, _ => rfl
  | pair a d, h => by
    obtain ⟨ha, hd⟩ := List.append_eq_nil_iff.1 h
    rw [renumber, renumber_of_closures_eq_nil ν a ha, renumber_of_closures_eq_nil ν d hd]
  | closure _ _, h => by cases h

theorem Datum.renumber_toValue (ν : Renumbering) (d : Datum) : d.toValue.renumber ν = d.toValue :=
  Value.renumber_of_closures_eq_nil ν _ d.closures_toValue

theorem Expr.renumberValues_fst (ν : Renumbering) (bindings : List (String × Expr)) :
    (renumberValues ν bindings).map Prod.fst = bindings.map Prod.fst := by
  rw [renumberValues_eq_map, List.map_map]
  rfl

theorem Builds.at_part {ν : Renumbering} {site : Site} {position : Position} {i : Nat} {d : Datum}
    {e : Expr} (h : Builds (ν.site (i :: site)) position d e) (hsite : site ≠ []) :
    Builds (i :: ν.site site) position d e := by
  rwa [ν.site_cons i hsite] at h

theorem BuildsBindings.at_part {ν : Renumbering} {site : Site} {i j : Nat} {pairs : List Datum}
    {bindings : List (String × Expr)} (h : BuildsBindings (ν.site (i :: site)) j pairs bindings)
    (hsite : site ≠ []) : BuildsBindings (i :: ν.site site) j pairs bindings := by
  rwa [ν.site_cons i hsite] at h

open List (cons_ne_nil)

mutual

theorem Builds.renumber (ν : Renumbering) : {site : Site} → {position : Position} →
    {d : Datum} → {e : Expr} → Builds site position d e → site ≠ [] →
    Builds (ν.site site) position d (e.renumber ν)
  | _, _, _, _, .num, _ => .num
  | _, _, _, _, .bool, _ => .bool
  | _, _, _, _, .str, _ => .str
  | _, _, _, _, .prim, _ => .prim
  | _, _, _, _, .var hx, _ => .var hx
  | _, _, _, _, .quote, _ => by
    rw [Expr.renumber, Datum.renumber_toValue]
    exact .quote
  | _, _, _, _, .cond test yes no, hsite =>
    .cond ((test.renumber ν (cons_ne_nil _ _)).at_part hsite)
      ((yes.renumber ν (cons_ne_nil _ _)).at_part hsite)
      ((no.renumber ν (cons_ne_nil _ _)).at_part hsite)
  | _, _, _, _, .lambda hparams hforms h, hsite => .lambda hparams hforms (h.renumber ν hsite)
  | _, _, _, _, .letIn hbindings hnames hforms h, hsite =>
    .letIn ((hbindings.renumber ν (cons_ne_nil _ _)).at_part hsite)
      (by rwa [Expr.renumberValues_fst]) hforms (h.renumber ν hsite)
  | _, _, _, _, .letRec hbindings hnames hforms h, hsite =>
    .letRec ((hbindings.renumber ν (cons_ne_nil _ _)).at_part hsite)
      (by rwa [Expr.renumberValues_fst]) hforms (h.renumber ν hsite)
  | _, _, _, _, .assign hx h, hsite =>
    .assign hx ((h.renumber ν (cons_ne_nil _ _)).at_part hsite)
  | _, _, _, _, .define hx h, hsite =>
    .define hx ((h.renumber ν (cons_ne_nil _ _)).at_part hsite)
  | _, _, _, _, .procedure hx hparams hforms h, hsite =>
    .procedure hx hparams hforms (h.renumber ν hsite)
  | _, _, _, _, .app hd hrator hrands, hsite =>
    .app hd ((hrator.renumber ν (cons_ne_nil _ _)).at_part hsite) (hrands.renumber ν hsite)

theorem BuildsAll.renumber (ν : Renumbering) : {site : Site} → {position : Position} →
    {i : Nat} → {ds : List Datum} → {es : List Expr} → BuildsAll site position i ds es →
    site ≠ [] → BuildsAll (ν.site site) position i ds (Expr.renumberAll ν es)
  | _, _, _, _, _, .nil, _ => .nil
  | _, _, _, _, _, .cons head tail, hsite =>
    .cons ((head.renumber ν (cons_ne_nil _ _)).at_part hsite) (tail.renumber ν hsite)

theorem BuildsBindings.renumber (ν : Renumbering) : {site : Site} → {i : Nat} →
    {pairs : List Datum} → {bindings : List (String × Expr)} →
    BuildsBindings site i pairs bindings → site ≠ [] →
    BuildsBindings (ν.site site) i pairs (Expr.renumberValues ν bindings)
  | _, _, _, _, .nil, _ => .nil
  | _, _, _, _, .cons head tail, hsite =>
    .cons ((head.renumber ν (cons_ne_nil _ _)).at_part hsite) (tail.renumber ν hsite)

end

theorem map_bind_eq {ε α α' β β' : Type} {x : Except ε α} {f : α → α'} {g : β → β'}
    {k : α → Except ε β} {k' : α' → Except ε β'} (h : ∀ a, k' (f a) = (k a).map g) :
    x.map f >>= k' = (x >>= k).map g := by
  cases x with
  | error e => rfl
  | ok a => exact h a

namespace Expr

variable {ν : Renumbering} {site : Site}

theorem ofDatum_renumber (hsite : site ≠ []) (position : Position) (d : Datum) :
    ofDatum (ν.site site) position d = (ofDatum site position d).map (renumber ν) := by
  have habreast := abreast_ofDatum site (ν.site site) position d
  generalize hx : ofDatum site position d = x at habreast
  generalize hy : ofDatum (ν.site site) position d = y at habreast
  cases habreast with
  | error h =>
    rw [h.1]
    rfl
  | ok h =>
    rw [ofDatum_of_builds (h.renumber ν hsite)] at hy
    exact hy.symm

theorem ofToplevel_renumber {base base' : Nat} (h : Parallel ν.form base base') (ds : List Datum) :
    ofData [] .sequence base' ds = (ofData [] .sequence base ds).map (renumberAll ν) := by
  induction ds generalizing base base' with
  | nil =>
    rw [ofData, ofData]
    rfl
  | cons d ds ih =>
    have hd : ofDatum [base'] .sequence d = (ofDatum [base] .sequence d).map (renumber ν) := by
      rw [← ofDatum_renumber (List.cons_ne_nil base []), ν.site_singleton]
      exact congrArg (fun n => ofDatum [n] .sequence d) (h 0).symm
    rw [ofData, ofData, hd, ih (h.add 1)]
    exact map_bind_eq fun e => map_bind_eq fun es => rfl

theorem renumberAll_congr {ν' : Renumbering} {base : Nat} {ds : List Datum} {es : List Expr}
    (h : ofData [] .sequence base ds = .ok es)
    (hform : ∀ i < base + es.length, ν.form i = ν'.form i) :
    renumberAll ν es = renumberAll ν' es := by
  induction ds generalizing base es with
  | nil =>
    rw [ofData] at h
    cases h
    rfl
  | cons d ds ih =>
    rw [ofData] at h
    obtain ⟨e, he, h⟩ := bind_eq_ok_iff.1 h
    obtain ⟨es', hes, heq⟩ := bind_eq_ok_iff.1 h
    cases heq
    rw [List.length_cons] at hform
    have hone : e.renumber ν = e.renumber ν' := by
      have hd := ofDatum_renumber (ν := ν) (List.cons_ne_nil base []) .sequence d
      have hd' := ofDatum_renumber (ν := ν') (List.cons_ne_nil base []) .sequence d
      rw [ν.site_singleton, hform base (by omega), ← ν'.site_singleton, hd', he] at hd
      exact (Except.ok.inj hd).symm
    rw [renumberAll, renumberAll, hone, ih hes fun i hi => hform i (by omega)]

end Expr

theorem Program.ofSource_renumber {ν : Renumbering} {base base' : Nat}
    (h : Parallel ν.form base base') (comments : Bool) (source : String) :
    ofSource comments base' source =
      (ofSource comments base source).map (Expr.renumberAll ν) := by
  rw [ofSource, ofSource]
  cases Datum.readAll (readable comments source) with
  | error e => rfl
  | ok ds =>
    have hds := Expr.ofToplevel_renumber h ds
    change (Expr.ofData [] .sequence base' ds).mapError _ =
      ((Expr.ofData [] .sequence base ds).mapError _).map _
    rw [hds]
    cases Expr.ofData [] .sequence base ds <;> rfl

end CallByName
