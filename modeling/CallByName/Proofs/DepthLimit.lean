import CallByName.Proofs.Nesting

/-! The depth limit. It makes every evaluation end, and it only ever cuts evaluations off: one that
it lets through ends the same under any higher limit and under none. -/

namespace CallByName

open EvalM

theorem checkDepth_eq_ok (limit : Option Nat) {d : Nat} (h : ∀ n ∈ limit, d < n) :
    checkDepth limit d = .ok () := by
  cases limit with
  | none => rfl
  | some n => rw [checkDepth, if_neg (Nat.not_le.2 (h n rfl))]

open Simulation

theorem follows_eval_of_looser {n : Nat} {limit : Option Nat} (hlimit : ∀ k ∈ limit, n ≤ k)
    (fuel d : Nat) (e : Expr) (ε : Env) :
    (exact (· = .depthExceeded n)).Follows (exact (· = .depthExceeded n)).Like
      (eval (some n) fuel d e ε) (eval limit fuel d e ε) := by
  refine follows_eval_exact (I := fun _ d d' => d = d') ?_ (Nat.le_refl _) rfl e ε
  intro fuel d d' hd
  subst hd
  refine ⟨?_, fun _ _ _ => rfl⟩
  by_cases hd : n ≤ d
  · rw [checkDepth, if_pos hd]
    exact .throw_of_cut rfl
  · have hd : d < n := Nat.not_le.1 hd
    rw [checkDepth_eq_ok limit fun k hk => Nat.lt_of_lt_of_le hd (hlimit k hk),
      checkDepth_eq_ok (some n) fun k hk => Option.mem_some.1 hk ▸ hd]
    exact .pure trivial

/-- Nested evaluations are at most two levels apart, so a bound on how far an unlimited evaluation
is nested gives a limit that it does not reach. -/
theorem follows_eval_of_bounded {n fuel d : Nat} (h : d + 2 * fuel ≤ n) (e : Expr) (ε : Env) :
    (exact fun _ => False).Follows (exact fun _ => False).Like
      (eval none fuel d e ε) (eval (some n) fuel d e ε) := by
  refine follows_eval_exact (I := fun fuel d d' => d = d' ∧ d + 2 * fuel ≤ n) ?_ (Nat.le_refl _)
    ⟨rfl, h⟩ e ε
  intro fuel d d' hI
  rcases hI with ⟨rfl, h⟩
  refine ⟨?_, fun k hk _ => ⟨rfl, by omega⟩⟩
  rw [checkDepth_eq_ok (some n) fun k hk => Option.mem_some.1 hk ▸ by omega]
  exact .pure trivial

/-- What a depth limit does to a computation. Under a limit the computation ends. If it does not
end in the error of that limit, it ends the same, with the same count, under every limit that is
not lower and under none. And what it ends in without a limit it ends in under all limits from
some point on. -/
structure CutOnly {α : Type} (run : Option Nat → Nat → EvalM α) : Prop where
  ends (n : Nat) (m : Meter) : ∃ r, Ends (run (some n)) m r ∧
    (r.1 = .error (.depthExceeded n) ∨
      ∀ limit, (∀ k ∈ limit, n ≤ k) → Ends (run limit) m r)
  reached (m : Meter) (r : Except Error α × Meter) : Ends (run none) m r →
    ∃ n, ∀ k, n ≤ k → Ends (run (some k)) m r

theorem cutOnly_of_uniform {α : Type} (F : (Expr → Env → EvalM Value) → EvalM α)
    (hF : ∀ {cut ev ev'}, (∀ e ε, (exact cut).Follows (exact cut).Like (ev e ε) (ev' e ε)) →
      (exact cut).Follows (· = ·) (F ev) (F ev'))
    (hsettles : ∀ {ev}, (∀ e ε, Settles (ev e ε)) → Settles (F ev)) (d : Nat) :
    CutOnly fun limit fuel => F (eval limit fuel d) := by
  have hends {limit : Option Nat} (fuel : Nat) {m : Meter} {r : Except Error α × Meter}
      (h : (F (eval limit fuel d)).run m = some r) :
      Ends (fun fuel => F (eval limit fuel d)) m r := by
    have hstable : Stable fun fuel => F (eval limit fuel d) :=
      stable_of_follows fun hfuel => hF (follows_eval_of_le limit hfuel d)
    exact hstable.ends_iff.2 ⟨fuel, h⟩
  constructor
  · intro n m
    obtain ⟨⟨r, m₁⟩, hr⟩ := hsettles (settles_eval (n := n) (d := d) n.succ_pos (by omega)) m
    refine ⟨(r, m₁), hends _ hr, ?_⟩
    by_cases hcut : r = .error (.depthExceeded n)
    · exact .inl hcut
    · refine .inr fun limit hlimit => hends n.succ ?_
      refine (run_of_follows (hF (follows_eval_of_looser hlimit _ d)) hr).resolve_left ?_
      rintro ⟨_, rfl, rfl⟩
      exact hcut rfl
  · intro m r hends₀
    rcases hends₀ with ⟨fuel, h⟩
    refine ⟨d + 2 * fuel, fun k hk => hends fuel ?_⟩
    exact run_of_follows_exact (hF (follows_eval_of_bounded hk)) (h fuel (Nat.le_refl _))

/-- The depth limit only ever cuts evaluations off: of expressions, of top-level forms with the
environment after them, and of bodies. -/
theorem depth_limit_only_cuts (env : Env) :
    (∀ depth e, CutOnly fun limit fuel => eval limit fuel depth e env) ∧
    (∀ forms, CutOnly fun limit fuel => evalToplevel limit fuel forms env) ∧
    ∀ forms, CutOnly fun limit fuel => evalSequence limit fuel forms env := by
  refine ⟨fun depth e => ?_, fun forms => ?_, fun forms => ?_⟩
  · exact cutOnly_of_uniform (fun ev => ev e env) (fun h => follows_eq (h e env))
      (fun h => h e env) depth
  · cases forms with
    | nil =>
      exact cutOnly_of_uniform (fun _ => throw .emptySequence)
        (fun _ => .throw (exact_error _)) (fun _ => .throw _) 1
    | cons form forms =>
      exact cutOnly_of_uniform (fun ev => runForms ev (form :: forms) env)
        (fun h => follows_runForms_exact h _ env) (fun h => settles_runForms h _ env) 1
  · exact cutOnly_of_uniform (fun ev => runBody ev forms env)
      (fun h => follows_runBody_exact h forms env) (fun h => settles_runBody h forms env) 1

end CallByName
