import CallByName.Proofs.Beta
import CallByName.Proofs.Nesting
import CallByName.Proofs.Rollback

/-! Nothing is memoized. As long as the frames that occur in an expression and its environment have
been made before, evaluation comes to the same however many others have been made, by as many
references. So a procedure that refers to its parameter any number of times evaluates its operand as
often, each time to the same text. -/

namespace CallByName

open Correspondence (eval_var)
open Simulation

/-- The frames that occur in an expression and its environment have been made. -/
def Meter.Covers (m : Meter) (e : Expr) (env : Env) : Prop :=
  ∀ i ∈ e.frames ++ env.frames, i ≤ m.frames

instance (m : Meter) (e : Expr) (env : Env) : Decidable (m.Covers e env) :=
  inferInstanceAs (Decidable (∀ i ∈ e.frames ++ env.frames, i ≤ m.frames))

namespace Meter.Covers

variable {m m' : Meter} {e : Expr} {env : Env}

theorem mono (h : m.Covers e env) (hm : m.frames ≤ m'.frames) : m'.Covers e env :=
  fun i hi => Nat.le_trans (h i hi) hm

theorem renumber_leavingOut (h : m.Covers e env) (n : Nat) :
    e.renumber (.leavingOut 0 m.frames (0, n)) = e ∧
      env.renumber (.leavingOut 0 m.frames (0, n)) = env := by
  have hforms := Renumbering.keepsForms_leavingOut 0 m.frames n
  have hframe : ∀ i ∈ e.frames ++ env.frames,
      (Renumbering.leavingOut 0 m.frames (0, n)).frame i = i := fun i hi => if_pos (h i hi)
  obtain ⟨he, henv⟩ := List.forall_mem_append.1 hframe
  exact ⟨(e.renumber_eq_self_iff hforms).2 he, (env.renumber_eq_self_iff hforms).2 henv⟩

end Meter.Covers

theorem Session.Bounded.covers {s : Session} (hs : s.Bounded) {comments : Bool} {source : String}
    {forms : List Expr} (hforms : Program.ofSource comments s.forms source = .ok forms) :
    ∀ e ∈ forms, s.meter.Covers e s.env := by
  -- Frames that keep their numbers where the next one is left out are not later ones.
  let ν := Renumbering.leavingOut 0 s.meter.frames (0, 1)
  have hν : ν.KeepsForms := Renumbering.keepsForms_leavingOut 0 s.meter.frames 1
  have hmade {i : Nat} (hi : ν.frame i = i) : i ≤ s.meter.frames := by
    refine Nat.le_of_not_lt fun hlt => ?_
    have hnext : i + 1 = i := (if_neg (Nat.not_le.2 hlt)).symm.trans hi
    exact Nat.succ_ne_self i hnext
  have henv : s.env.renumber ν = s.env := by
    have hsame := hs .refl ν (fun i _ => (hν i).symm) fun i hi => (if_pos hi).symm
    rw [← hsame, Env.renumber_refl]
  have hall : Expr.renumberAll ν forms = forms := by
    obtain ⟨ds, -, hds⟩ := Program.ofSource_eq_ok_iff.1 hforms
    have hsame : Expr.renumberAll .refl forms = Expr.renumberAll ν forms :=
      Expr.renumberAll_congr hds fun i _ => (hν i).symm
    rw [← hsame, Expr.renumberAll_refl]
  intro e he i hi
  rcases List.mem_append.1 hi with hi | hi
  · have hmem : i ∈ Expr.framesAll forms := by
      rw [Expr.framesAll_eq_flatMap]
      exact List.mem_flatMap.2 ⟨e, he, hi⟩
    exact hmade ((Expr.renumberAll_eq_self_iff hν forms).1 hall i hmem)
  · exact hmade ((s.env.renumber_eq_self_iff hν).1 henv i hi)

section

variable {limit : Option Nat} {fuel d : Nat} {e : Expr} {env : Env} {m m' m₁ : Meter}
  {r : Except Error Value}

theorem run_of_covers (h : m.Covers e env) (h' : m'.Covers e env)
    (hrun : (eval limit fuel d e env).run m = some (r, m₁)) :
    ∃ r' m₁', (eval limit fuel d e env).run m' = some (r', m₁') ∧
      ResultLike (· = ·) (fun v w => v.text = w.text) r r' ∧
      m₁.lookups + m'.lookups = m₁'.lookups + m.lookups := by
  have hparallel (k n : Nat) :
      Parallel (Renumbering.leavingOut 0 n (0, k)).frame (n + 1) (n + k + 1) := by
    intro i
    have hi : ¬ n + 1 + i ≤ n := by omega
    refine (if_neg hi).trans ?_
    dsimp only
    omega
  rcases Nat.le_total m.frames m'.frames with hle | hle
  · obtain ⟨k, hk⟩ := Nat.exists_eq_add_of_le hle
    obtain ⟨he, henv⟩ := h.renumber_leavingOut k
    let ν := Renumbering.leavingOut 0 m.frames (0, k)
    have hm : (ν.simulation m m').meter m m' :=
      ⟨Nat.add_comm _ _, Nat.le_refl _, hk ▸ hparallel k m.frames⟩
    have hfollows := ν.follows_eval m m' limit fuel d e env
    rw [he, henv] at hfollows
    obtain ⟨r', m₁', hrun', hlike, hlookups, -⟩ :=
      Simulation.run_of_follows_like (fun _ => id) hfollows hm hrun
    exact ⟨r', m₁', hrun', hlike, hlookups⟩
  · obtain ⟨k, hk⟩ := Nat.exists_eq_add_of_le hle
    obtain ⟨he, henv⟩ := h'.renumber_leavingOut k
    let ν := Renumbering.leavingOut 0 m'.frames (0, k)
    have hm : (ν.simulation m' m).flip.meter m m' :=
      ⟨Nat.add_comm _ _, Nat.le_refl _, hk ▸ hparallel k m'.frames⟩
    have hfollows := ν.flip_follows_eval m' m limit fuel d e env
    rw [he, henv] at hfollows
    obtain ⟨r', m₁', hrun', hlike, hlookups, -⟩ :=
      Simulation.run_of_follows_like (fun _ => id) hfollows hm hrun
    exact ⟨r', m₁', hrun', hlike.imp (fun _ _ => Eq.symm) fun _ _ => id, hlookups.symm⟩

end

def Expr.listing (site : Site) (x : String) (n : Nat) (e : Expr) : Expr :=
  .app (.lambda (.mk site [x] [.app (.prim .list) (List.replicate n (.var x))])) [e]

section

variable {fuel fuel' d : Nat} {e : Expr} {env scope : Env} {m : Meter} {x : String}

theorem run_eval_of_le (hfuel : fuel ≤ fuel') (d d' : Nat) {r : Except Error Value × Meter}
    (h : (eval none fuel d e env).run m = some r) : (eval none fuel' d' e env).run m = some r := by
  rw [eval_none_eq fuel' d' d]
  exact (Sequential.call d e env).stable none hfuel h

theorem eval_list (rands : List Expr) :
    eval none (fuel + 2) d (.app (.prim .list) rands) env =
      rands.mapM (fun a => eval none (fuel + 1) (d + 1) a env) >>= fun vs =>
        pure (Value.ofList vs) := by
  rfl

theorem run_again {m' : Meter} (hm : m.Covers e env) (hm' : m'.Covers e env)
    {r : Except Error Value} {k f : Nat}
    (h : (eval none fuel d e env).run m = some (r, ⟨m.lookups + k, f⟩)) (d' : Nat) :
    ∃ r' f', (eval none fuel d' e env).run m' = some (r', ⟨m'.lookups + k, f'⟩) ∧
      ResultLike (· = ·) (fun v w => v.text = w.text) r r' := by
  have hrun := run_eval_of_le (Nat.le_refl fuel) d d' h
  obtain ⟨r', m₁, hrun', hlike, hlookups⟩ := run_of_covers hm hm' hrun
  have hcount : m₁.lookups = m'.lookups + k := by
    dsimp only at hlookups
    omega
  exact ⟨r', m₁.frames, hcount ▸ hrun', hlike⟩

theorem run_listing (site : Site) (n : Nat) :
    (eval none (fuel + 3) d (.listing site x n e) env).run m =
      ((List.replicate n (Expr.var x)).mapM (fun a => eval none (fuel + 1) (d + 3) a
        (.bind (m.frames + 1) [(x, e)] env env)) >>= fun vs => pure (Value.ofList vs)).run
          ⟨m.lookups, m.frames + 1⟩ := by
  rw [← eval_list, ← runBody_singleton (eval none (fuel + 2) (d + 2)) rfl]
  rfl

theorem run_reference (hx : scope.lookup? x = some ⟨e, env⟩) :
    (eval none (fuel + 1) d (.var x) scope).run m =
      (eval none fuel (d + 1) e env).run ⟨m.lookups + 1, m.frames⟩ := by
  rw [eval_var hx, EvalM.run_bind, EvalM.run_countLookup]

theorem run_references (hx : scope.lookup? x = some ⟨e, env⟩) {k : Nat} {text : String}
    (hrun : ∀ m : Meter, m.Covers e env → ∃ w f,
      (eval none fuel (d + 1) e env).run m = some (.ok w, ⟨m.lookups + k, f⟩) ∧ w.text = text)
    (n : Nat) (hm : m.Covers e env) :
    ∃ vs f, ((List.replicate n (Expr.var x)).mapM fun a => eval none (fuel + 1) d a scope).run m =
      some (.ok vs, ⟨m.lookups + n * (k + 1), f⟩) ∧ vs.length = n ∧ ∀ w ∈ vs, w.text = text := by
  induction n generalizing m with
  | zero =>
    rw [Nat.zero_mul]
    exact ⟨[], m.frames, rfl, rfl, List.forall_mem_nil _⟩
  | succ n ih =>
    obtain ⟨w, f, hw, htext⟩ := hrun ⟨m.lookups + 1, m.frames⟩ hm
    have hframes : m.frames ≤ f := frames_le_of_eval hw
    have hcovers : Meter.Covers ⟨m.lookups + 1 + k, f⟩ e env := hm.mono hframes
    obtain ⟨vs, f', hvs, hlength, htexts⟩ := ih hcovers
    refine ⟨w :: vs, f', ?_, congrArg Nat.succ hlength, List.forall_mem_cons.2 ⟨htext, htexts⟩⟩
    rw [List.replicate_succ, List.mapM_cons, EvalM.run_bind, run_reference hx, hw]
    dsimp only
    rw [EvalM.run_bind, hvs]
    have hcount : m.lookups + 1 + k + n * (k + 1) = m.lookups + (n + 1) * (k + 1) := by
      rw [Nat.succ_mul]
      omega
    rw [hcount]
    rfl

end

/-- Nothing is memoized. If an operand has a value, a list of `n` references to it has `n` elements
that print as that value and takes `n` times the operand's lookups, with one more each for the
reference; if it fails, the first reference fails with its error. Without a reference the operand
does not matter. No frame may occur that is still to be made, and in a session none does. -/
theorem nothing_is_memoized (e : Expr) (env : Env) (site : Site) (x : String) (depth depth' : Nat)
    (m' : Meter) :
    (∃ f, Ends (fun fuel => eval none fuel depth' (.listing site x 0 e) env) m'
      (.ok .nil, ⟨m'.lookups, f⟩)) ∧
    ∀ m, m.Covers e env → m'.Covers e env →
      (∀ v k f, Ends (fun fuel => eval none fuel depth e env) m (.ok v, ⟨m.lookups + k, f⟩) →
        ∀ n, ∃ vs f', Ends (fun fuel => eval none fuel depth' (.listing site x n e) env) m'
            (.ok (.ofList vs), ⟨m'.lookups + n * (k + 1), f'⟩) ∧
          vs.length = n ∧ ∀ w ∈ vs, w.text = v.text) ∧
      ∀ error k f,
        Ends (fun fuel => eval none fuel depth e env) m (.error error, ⟨m.lookups + k, f⟩) →
        ∀ n, 1 ≤ n → ∃ f', Ends (fun fuel => eval none fuel depth' (.listing site x n e) env) m'
          (.error error, ⟨m'.lookups + (k + 1), f'⟩) := by
  -- The frame of the procedure comes before all references.
  have hx : Env.lookup? x (.bind (m'.frames + 1) [(x, e)] env env) = some ⟨e, env⟩ :=
    Env.lookup?_bind_of_mem List.lookup_cons_self
  refine ⟨?_, fun m hm hm' => ⟨?_, ?_⟩⟩
  · have hrun : (eval none (0 + 3) depth' (.listing site x 0 e) env).run m' =
        some (.ok .nil, ⟨m'.lookups, m'.frames + 1⟩) := by
      rw [run_listing]
      rfl
    exact ⟨_, ends_eval hrun⟩
  · rintro v k f ⟨fuel, h⟩ n
    have hlater : Meter.Covers ⟨m'.lookups, m'.frames + 1⟩ e env := hm'.mono (Nat.le_succ _)
    have hagain : ∀ m₁ : Meter, m₁.Covers e env → ∃ w f',
        (eval none fuel (depth' + 3 + 1) e env).run m₁ = some (.ok w, ⟨m₁.lookups + k, f'⟩) ∧
          w.text = v.text := by
      intro m₁ hm₁
      obtain ⟨r, f', hrun, hlike⟩ := run_again hm hm₁ (h fuel (Nat.le_refl fuel)) _
      cases hlike with
      | ok htext => exact ⟨_, f', hrun, htext.symm⟩
    obtain ⟨vs, f', hvs, hlength, htexts⟩ := run_references hx hagain n hlater
    have hrun : (eval none (fuel + 3) depth' (.listing site x n e) env).run m' =
        some (.ok (.ofList vs), ⟨m'.lookups + n * (k + 1), f'⟩) := by
      rw [run_listing, EvalM.run_bind, hvs]
      rfl
    exact ⟨vs, f', ends_eval hrun, hlength, htexts⟩
  · rintro error k f ⟨fuel, h⟩ n hn
    obtain ⟨n, rfl⟩ := Nat.exists_eq_add_of_le' hn
    have hlater : Meter.Covers ⟨m'.lookups + 1, m'.frames + 1⟩ e env := hm'.mono (Nat.le_succ _)
    obtain ⟨r, f', hrun, hlike⟩ :=
      run_again hm hlater (h fuel (Nat.le_refl fuel)) (depth' + 3 + 1)
    cases hlike with
    | error herror =>
      subst herror
      have hrun : (eval none (fuel + 3) depth' (.listing site x (n + 1) e) env).run m' =
          some (.error error, ⟨m'.lookups + (k + 1), f'⟩) := by
        rw [run_listing, EvalM.run_bind, List.replicate_succ, List.mapM_cons, EvalM.run_bind,
          run_reference hx, hrun, Nat.add_right_comm m'.lookups 1 k, Nat.add_assoc]
      exact ⟨f', ends_eval hrun⟩

theorem nothing_is_memoized_sum :
    let env : Env := .bind 1 [("y", .num 2)] .empty .empty
    (∃ vs f, Ends (fun fuel => eval none fuel 0
          (.listing [0] "x" 3 (.app (.prim .add) [.var "y", .num 1])) env) ⟨5, 4⟩
        (.ok (.ofList vs), ⟨11, f⟩) ∧ vs.length = 3 ∧ ∀ w ∈ vs, w.text = "3") ∧
      ∃ f, Ends (fun fuel => eval none fuel 0 (.listing [0] "x" 3 (.app (.var "y") [])) env) ⟨5, 4⟩
        (.error (.notProcedure "2" "number"), ⟨7, f⟩) := by
  intro env
  have hsum : Meter.Covers ⟨0, 1⟩ (.app (.prim .add) [.var "y", .num 1]) env := by decide
  have hcall : Meter.Covers ⟨0, 1⟩ (.app (.var "y") []) env := by decide
  have hvalue : Ends (fun fuel => eval none fuel 0 (.app (.prim .add) [.var "y", .num 1]) env)
      ⟨0, 1⟩ (.ok (.num 3), ⟨0 + 1, 1⟩) := by
    have hrun : (eval none 3 0 (.app (.prim .add) [.var "y", .num 1]) env).run ⟨0, 1⟩ =
      some (.ok (.num 3), ⟨0 + 1, 1⟩) := rfl
    exact ends_eval hrun
  have herror : Ends (fun fuel => eval none fuel 0 (.app (.var "y") []) env) ⟨0, 1⟩
      (.error (.notProcedure "2" "number"), ⟨0 + 1, 1⟩) := by
    have hrun : (eval none 3 0 (.app (.var "y") []) env).run ⟨0, 1⟩ =
      some (.error (.notProcedure "2" "number"), ⟨0 + 1, 1⟩) := rfl
    exact ends_eval hrun
  have hmade : (⟨0, 1⟩ : Meter).frames ≤ (⟨5, 4⟩ : Meter).frames := by decide
  obtain ⟨-, hlists⟩ := nothing_is_memoized (.app (.prim .add) [.var "y", .num 1]) env [0] "x" 0 0
    ⟨5, 4⟩
  obtain ⟨-, hfails⟩ := nothing_is_memoized (.app (.var "y") []) env [0] "x" 0 0 ⟨5, 4⟩
  exact ⟨(hlists _ hsum (hsum.mono hmade)).1 _ _ _ hvalue 3,
    (hfails _ hcall (hcall.mono hmade)).2 _ _ _ herror 3 (by decide)⟩

end CallByName
