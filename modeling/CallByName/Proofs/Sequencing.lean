import CallByName.Proofs.Frames

/-! Top-level forms in two parts. Evaluating the forms of both parts comes to evaluating the first
part and then, where that left off, the second one. How many references were followed before makes
no difference to either, so each part adds what it adds by itself. -/

namespace CallByName

open Simulation

theorem stable_runForms (limit : Option Nat) (d : Nat) (forms : List Expr) (env : Env) :
    Stable fun fuel => runForms (eval limit fuel d) forms env :=
  stable_of_follows fun hfuel => follows_runForms_exact (follows_eval_of_le limit hfuel d) forms env

section

variable {limit : Option Nat} {fuel d : Nat} {forms : List Expr} {env : Env} {m m₁ : Meter}
  {r : Except Error (Option Value × Env)}

theorem exists_run_runForms (k : Nat)
    (h : (runForms (eval limit fuel d) forms env).run m = some (r, m₁)) :
    ∃ k₁, (runForms (eval limit fuel d) forms env).run ⟨k, m.frames⟩ = some (r, ⟨k₁, m₁.frames⟩) ∧
      m₁.lookups + k = k₁ + m.lookups := by
  have hmeter : (Renumbering.refl.simulation m ⟨k, m.frames⟩).meter m ⟨k, m.frames⟩ :=
    ⟨Nat.add_comm _ _, Nat.le_refl _, fun _ => rfl⟩
  have hrel := Renumbering.rel_runForms .refl m ⟨k, m.frames⟩ hmeter limit fuel d forms env
  rw [h, Expr.renumberAll_refl, Env.renumber_refl] at hrel
  generalize (runForms (eval limit fuel d) forms env).run ⟨k, m.frames⟩ = run at hrel ⊢
  cases hrel with
  | @some _ s hs =>
    obtain ⟨r', k₁, frames⟩ := s
    obtain ⟨hr, hlookups, -, hparallel⟩ := hs
    have hframes : m₁.frames = frames := Nat.succ.inj (hparallel 0)
    have hsame : r' = r := by
      cases hr with
      | error he => rw [he]
      | ok ha =>
        have hid : Value.renumber .refl = id := funext Value.renumber_refl
        rw [ha, Env.renumber_refl, hid, Option.map_id, id]
    refine ⟨k₁, ?_, hlookups⟩
    rw [hsame, hframes]

theorem run_runForms_of_run (h : (runForms (eval limit fuel d) forms env).run m = some (r, m₁)) :
    ∃ n, m₁.lookups = m.lookups + n ∧ ∀ k, (runForms (eval limit fuel d) forms env).run
      ⟨k, m.frames⟩ = some (r, ⟨k + n, m₁.frames⟩) := by
  -- From no references at all the run counts just those that it adds.
  obtain ⟨n, -, hn⟩ := exists_run_runForms 0 h
  refine ⟨n, by omega, fun k => ?_⟩
  obtain ⟨k₁, hrun, hk₁⟩ := exists_run_runForms k h
  have hadded : k₁ = k + n := by omega
  rw [hrun, hadded]

end

abbrev ToplevelEnds (limit : Option Nat) (forms : List Expr) (env : Env) (m : Meter)
    (r : Except Error (Option Value × Env) × Meter) : Prop :=
  Ends (fun fuel => evalToplevel limit fuel forms env) m r

section

variable {limit : Option Nat} {forms more : List Expr} {env : Env}

theorem toplevelEnds_iff_run (hforms : forms ≠ []) {m : Meter}
    {r : Except Error (Option Value × Env) × Meter} : ToplevelEnds limit forms env m r ↔
      ∃ fuel, (runForms (eval limit fuel 1) forms env).run m = some r := by
  rw [← (stable_runForms limit 1 forms env).ends_iff, ToplevelEnds]
  simp only [evalToplevel_eq_runForms hforms]

theorem toplevelEnds_append_iff (hforms : forms ≠ []) (hmore : more ≠ []) {m : Meter}
    {r : Except Error (Option Value × Env) × Meter} :
    ToplevelEnds limit (forms ++ more) env m r ↔
      (∃ e m₁, ToplevelEnds limit forms env m (.error e, m₁) ∧ r = (.error e, m₁)) ∨
        ∃ v env₁ m₁, ToplevelEnds limit forms env m (.ok (v, env₁), m₁) ∧
          ToplevelEnds limit more env₁ m₁ r := by
  have hboth : forms ++ more ≠ [] := List.append_ne_nil_of_left_ne_nil hforms more
  simp only [ToplevelEnds, evalToplevel_eq_runForms hboth, evalToplevel_eq_runForms hforms,
    evalToplevel_eq_runForms hmore, runForms_append _ _ hmore]
  rw [ends_bind_iff (stable_runForms limit 1 forms env)
    fun s => stable_runForms limit 1 more s.2, Prod.exists]

theorem toplevelEnds_iff_of_lookups (hforms : forms ≠ []) {m m' : Meter} (k : Nat)
    {r : Except Error (Option Value × Env)} : ToplevelEnds limit forms env m (r, m') ↔
      ∃ n, m'.lookups = m.lookups + n ∧
        ToplevelEnds limit forms env ⟨k, m.frames⟩ (r, ⟨k + n, m'.frames⟩) := by
  simp only [toplevelEnds_iff_run hforms]
  constructor
  · rintro ⟨fuel, h⟩
    obtain ⟨n, hn, hrun⟩ := run_runForms_of_run h
    exact ⟨n, hn, fuel, hrun k⟩
  · rintro ⟨n, hn, fuel, h⟩
    obtain ⟨n', hn', hrun⟩ := run_runForms_of_run h
    have hadded : n' = n := Nat.add_left_cancel hn'.symm
    refine ⟨fuel, ?_⟩
    rw [hrun m.lookups, hadded, ← hn]

end

/-- Evaluating the forms of two parts ends in the error of the first part, if that ends in one, and
otherwise in what the second part ends in, in the environment that the first one leaves. The number
of references followed is the sum of what the parts add by themselves, each from any count; the
frames of the second part are numbered on from those of the first. -/
theorem toplevel_composes {forms more : List Expr} (hforms : forms ≠ []) (hmore : more ≠ [])
    (limit : Option Nat) (env : Env) (m : Meter) (k k' : Nat)
    (r : Except Error (Option Value × Env) × Meter) :
    ToplevelEnds limit (forms ++ more) env m r ↔
      (∃ e n frames, ToplevelEnds limit forms env ⟨k, m.frames⟩ (.error e, ⟨k + n, frames⟩) ∧
        r = (.error e, ⟨m.lookups + n, frames⟩)) ∨
      ∃ v env₁ n frames n' frames' r',
        ToplevelEnds limit forms env ⟨k, m.frames⟩ (.ok (v, env₁), ⟨k + n, frames⟩) ∧
        ToplevelEnds limit more env₁ ⟨k', frames⟩ (r', ⟨k' + n', frames'⟩) ∧
        r = (r', ⟨m.lookups + (n + n'), frames'⟩) := by
  rw [toplevelEnds_append_iff hforms hmore]
  constructor
  · rintro (⟨e, m₁, hfirst, rfl⟩ | ⟨v, env₁, m₁, hfirst, hrest⟩)
    · obtain ⟨n, hn, hfirst⟩ := (toplevelEnds_iff_of_lookups hforms k).1 hfirst
      refine .inl ⟨e, n, m₁.frames, hfirst, ?_⟩
      rw [← hn]
    · obtain ⟨n, hn, hfirst⟩ := (toplevelEnds_iff_of_lookups hforms k).1 hfirst
      obtain ⟨r', m'⟩ := r
      obtain ⟨n', hn', hrest⟩ := (toplevelEnds_iff_of_lookups hmore k').1 hrest
      refine .inr ⟨v, env₁, n, m₁.frames, n', m'.frames, r', hfirst, hrest, ?_⟩
      rw [← Nat.add_assoc, ← hn, ← hn']
  · rintro (⟨e, n, frames, hfirst, rfl⟩ | ⟨v, env₁, n, frames, n', frames', r', hfirst, hrest, rfl⟩)
    · exact .inl ⟨e, _, (toplevelEnds_iff_of_lookups hforms k).2 ⟨n, rfl, hfirst⟩, rfl⟩
    · refine .inr ⟨v, env₁, ⟨m.lookups + n, frames⟩,
        (toplevelEnds_iff_of_lookups hforms k).2 ⟨n, rfl, hfirst⟩,
        (toplevelEnds_iff_of_lookups hmore k').2 ⟨n', (Nat.add_assoc _ _ _).symm, hrest⟩⟩

theorem toplevel_composes_redefinition :
    ∃ env, ToplevelEnds none ([.define "x" (.num 1), .var "x"] ++
        [.define "x" (.app (.prim .add) [.var "x", .num 1]), .var "x"]) .empty ⟨7, 0⟩
      (.ok (some (.num 2), env), ⟨10, 2⟩) := by
  have hforms : [Expr.define "x" (.num 1), .var "x"] ≠ [] := List.cons_ne_nil _ _
  have hmore : [Expr.define "x" (.app (.prim .add) [.var "x", .num 1]), .var "x"] ≠ [] :=
    List.cons_ne_nil _ _
  have hfirst : ToplevelEnds none [.define "x" (.num 1), .var "x"] .empty ⟨0, 0⟩
      (.ok (some (.num 1), .bind 1 [("x", .num 1)] .empty .empty), ⟨0 + 1, 1⟩) :=
    (toplevelEnds_iff_run hforms).2 ⟨2, rfl⟩
  have hrest : ToplevelEnds none [.define "x" (.app (.prim .add) [.var "x", .num 1]), .var "x"]
      (.bind 1 [("x", .num 1)] .empty .empty) ⟨0, 1⟩
      (.ok (some (.num 2), .bind 2 [("x", .app (.prim .add) [.var "x", .num 1])]
        (.bind 1 [("x", .num 1)] .empty .empty) (.bind 1 [("x", .num 1)] .empty .empty)),
        ⟨0 + 2, 2⟩) :=
    (toplevelEnds_iff_run hmore).2 ⟨4, rfl⟩
  exact ⟨_, (toplevel_composes hforms hmore none .empty ⟨7, 0⟩ 0 0 _).2
    (.inr ⟨_, _, _, _, _, _, _, hfirst, hrest, rfl⟩)⟩

end CallByName
