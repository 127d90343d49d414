import CallByName.Proofs.Unused

/-! Bindings in another order. Where no name is bound twice, a frame answers the same for every name
whatever the order of its bindings, and so does a frame of procedures, which see the frame itself.
So the runs of two forms whose bindings differ only in their order go in lockstep. -/

namespace CallByName

open Correspondence

def Lambda.bindings (procs : List (String × Lambda)) : List (String × Expr) :=
  procs.map fun p => (p.1, .lambda p.2)

theorem lambdas_bindings (procs : List (String × Lambda)) :
    lambdas (Lambda.bindings procs) = .ok procs := by
  induction procs with
  | nil => rfl
  | cons p procs ih =>
    change (lambdas (Lambda.bindings procs)).map ((p.1, p.2) :: ·) = .ok (p :: procs)
    rw [ih]
    rfl

theorem lookup_bindings (procs : List (String × Lambda)) (x : String) :
    (Lambda.bindings procs).lookup x = (procs.lookup x).map Expr.lambda :=
  lookup_map_snd Expr.lambda procs x

theorem exists_bindings {bs : List (String × Expr)} (h : ∀ b ∈ bs, ∃ proc, b.2 = .lambda proc) :
    ∃ procs, bs = Lambda.bindings procs := by
  induction bs with
  | nil => exact ⟨[], rfl⟩
  | cons b bs ih =>
    obtain ⟨x, e⟩ := b
    obtain ⟨⟨proc, rfl⟩, hbs⟩ := List.forall_mem_cons.1 h
    obtain ⟨procs, rfl⟩ := ih hbs
    exact ⟨(x, proc) :: procs, rfl⟩

namespace Unused

variable {procs procs' : List (String × Lambda)} {body : List Expr} {env : Env}

theorem agree_bindRec_of_lookup_eq (h : ∀ x, procs.lookup x = procs'.lookup x) (i : Nat)
    (x : String) : (same (fun _ => True) fun _ => True).Agree x (.bindRec i procs env)
      (.bindRec i procs' env) := by
  -- The frames contain themselves by their procedures, so all names are shown to agree at once.
  refine Agree.coinduct
    (R := fun _ δ δ' => δ = .bindRec i procs env ∧ δ' = .bindRec i procs' env) ?_ ⟨rfl, rfl⟩
  rintro y _ _ ⟨rfl, rfl⟩
  cases hy : procs.lookup y with
  | none =>
    have hout (procs : List (String × Lambda)) (hnone : procs.lookup y = none) :
        Env.lookup? y (.bindRec i procs env) = env.lookup? y := by
      simp [Env.lookup?, hnone]
    have hagree := (agree_refl y env).congr (hout procs hy) (hout procs' (h y ▸ hy))
    exact hagree.matched.mono fun _ _ _ => .inr
  | some proc =>
    simp only [Matched, Env.lookup?_bindRec_of_mem hy, Env.lookup?_bindRec_of_mem (h y ▸ hy)]
    exact related_same (fun _ _ => trivial) rfl fun _ _ => .inl ⟨rfl, rfl⟩

theorem follows_letRec (limit : Option Nat) (fuel depth : Nat)
    (h : ∀ x, procs.lookup x = procs'.lookup x) :
    simulation.Follows simulation.Like
      (eval limit fuel depth (.letRec (Lambda.bindings procs) body) env)
      (eval limit fuel depth (.letRec (Lambda.bindings procs') body) env) := by
  refine follows_eval_of_head limit fuel depth (.letRec ?_)
  rw [lambdas_bindings, lambdas_bindings]
  refine .ok fun i j hij => ?_
  obtain rfl : i = j := hij
  exact body_of_agree (fun _ _ => trivial) rfl fun x _ => agree_bindRec_of_lookup_eq h i x

end Unused

open Unused

/-- The order of bindings makes no difference where no name is bound twice: neither in a `let`, nor
in a `letrec` of lambdas, nor where a lambda is applied and its parameters are put in another order
along with the operands. -/
theorem binding_order_irrelevant {bs bs' : List (String × Expr)} (hperm : bs.Perm bs')
    (hnames : (bs.map Prod.fst).Nodup) (body : List Expr) (env : Env) (limit : Option Nat)
    (fuel depth : Nat) :
    PrintAlike (eval limit fuel depth (.letIn bs body) env)
        (eval limit fuel depth (.letIn bs' body) env) ∧
      ((∀ b ∈ bs, ∃ proc, b.2 = .lambda proc) →
        PrintAlike (eval limit fuel depth (.letRec bs body) env)
          (eval limit fuel depth (.letRec bs' body) env)) ∧
      ∀ site site', PrintAlike
        (eval limit fuel depth
          (.app (.lambda (.mk site (bs.map Prod.fst) body)) (bs.map Prod.snd)) env)
        (eval limit fuel depth
          (.app (.lambda (.mk site' (bs'.map Prod.fst) body)) (bs'.map Prod.snd)) env) := by
  have heq := lookup_eq_of_perm hperm hnames
  have heq' := fun x => (heq x).symm
  refine ⟨?_, fun hlambdas => ?_, fun site site' => ?_⟩
  · exact printAlike_of_follows (follows_let limit fuel depth fun x _ => heq x)
      (follows_let limit fuel depth fun x _ => heq' x)
  · obtain ⟨procs, rfl⟩ := exists_bindings hlambdas
    obtain ⟨procs', rfl⟩ := exists_bindings fun b hb => hlambdas b (hperm.mem_iff.2 hb)
    have hprocs : ∀ x, procs.lookup x = procs'.lookup x := by
      intro x
      have hx := heq x
      rw [lookup_bindings, lookup_bindings] at hx
      exact Option.map_injective (fun _ _ h => Expr.lambda.inj h) hx
    exact printAlike_of_follows (follows_letRec limit fuel depth hprocs)
      (follows_letRec limit fuel depth fun x => (hprocs x).symm)
  · have hlength (bs : List (String × Expr)) :
        (bs.map Prod.snd).length = (bs.map Prod.fst).length := by
      rw [List.length_map, List.length_map]
    have hzip : ∀ x ∈ Expr.freeForms body, ((bs.map Prod.fst).zip (bs.map Prod.snd)).lookup x =
        ((bs'.map Prod.fst).zip (bs'.map Prod.snd)).lookup x := by
      intro x _
      rw [← List.zip_of_prod rfl rfl, ← List.zip_of_prod rfl rfl, heq x]
    exact printAlike_of_follows
      (follows_app site' limit fuel depth (hlength bs) (hlength bs') hzip)
      (follows_app site limit fuel depth (hlength bs') (hlength bs) fun x hx => (hzip x hx).symm)

theorem binding_order_irrelevant_mutual :
    let f : String × Expr := ("f", .lambda (.mk [0] ["n"]
      [.app (.var "g") [.var "n"]]))
    let g : String × Expr := ("g", .lambda (.mk [1] ["n"]
      [.app (.prim .list) [.var "n", .var "f"]]))
    let body : List Expr := [.app (.var "f") [.num 1]]
    let run (e : Expr) : EvalM Value := eval (some 20) 10 0 e .empty
    (PrintAlike (run (.letIn [f, g] body)) (run (.letIn [g, f] body)) ∧
        (run (.letIn [f, g] body)).run ⟨0, 0⟩ = some (.error (.unbound "g"), ⟨1, 2⟩)) ∧
      (PrintAlike (run (.letRec [f, g] body)) (run (.letRec [g, f] body)) ∧
        ((run (.letRec [f, g] body)).run ⟨0, 0⟩).map (fun r => (r.1.map Value.text, r.2)) =
          some (.ok "(1 #<closure (n)>)", ⟨5, 3⟩)) ∧
      PrintAlike (run (.app (.lambda (.mk [2] ["f", "g"] body)) [f.2, g.2]))
        (run (.app (.lambda (.mk [3] ["g", "f"] body)) [g.2, f.2])) := by
  intro f g body run
  obtain ⟨hlet, hletRec, happ⟩ := binding_order_irrelevant (.swap g f []) (by decide) body .empty
    (some 20) 10 0
  have hlambdas : ∀ b ∈ [f, g], ∃ proc, b.2 = .lambda proc := by
    rintro b (_ | ⟨_, _ | ⟨_, ⟨⟩⟩⟩)
    · exact ⟨_, rfl⟩
    · exact ⟨_, rfl⟩
  exact ⟨⟨hlet, by rfl⟩, ⟨hletRec hlambdas, by rfl⟩, happ [2] [3]⟩

end CallByName
