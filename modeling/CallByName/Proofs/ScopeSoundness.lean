import CallByName.Proofs.Literals
import CallByName.Proofs.Lockstep

/-! The scopes of the language are respected. A program is run beside itself; wherever the run goes,
the environments agree at the free names of what is evaluated in them, so a name for which nothing
is found is one that the program leaves free. -/

namespace CallByName

open Correspondence

namespace ScopeSoundness

abbrev simulation (names : List String) : Simulation :=
  (same (fun v => v.closures = []) (· ∈ names)).simulation

variable {names : List String}

theorem like_refl {v : Value} (h : v.closures = []) : (simulation names).Like v v :=
  like_of_closures_eq_nil h fun _ _ => rfl

theorem agree_empty {x : String} (hx : x ∈ names) :
    (same (fun v => v.closures = []) (· ∈ names)).Agree x .empty .empty := by
  apply Agree.of_matched
  refine ⟨rfl, ?_⟩
  intro y hy
  cases hy
  exact hx

theorem follows_evalProgram {forms : List Expr} (h : Plain (Expr.constantsAll forms))
    (limit : Option Nat) (fuel : Nat) :
    (simulation (Expr.freeForms forms)).Follows (simulation (Expr.freeForms forms)).Like
      (evalProgram limit fuel forms) (evalProgram limit fuel forms) := by
  apply Simulation.follows_runBody
  · intro a ε b ε' hab
    exact Correspondence.follows_eval (fun v hv => like_refl hv) (fun _ _ h => h) limit fuel 1 hab
  · exact body_of_agree h rfl fun x hx => agree_empty hx

theorem mem_of_unbound {forms : List Expr} (h : Plain (Expr.constantsAll forms))
    {limit : Option Nat} {fuel : Nat} {m m' : Meter} {x : String}
    (hx : (evalProgram limit fuel forms).run m = some (.error (.unbound x), m')) :
    x ∈ Expr.freeForms forms := by
  rcases follows_evalProgram h limit fuel rfl hx with ⟨e, -, hcut⟩ | ⟨r, m₁, -, hr, -⟩
  · exact hcut.elim
  · cases hr with
    | error he => exact he.2 x rfl

end ScopeSoundness

open ScopeSoundness

/-- The only names that a program can fail to find are its free names, and a closed program finds
all of its names, at every depth limit. This holds if no closure is quoted in the program, as in
every program read from a text. -/
theorem mem_freeForms_of_unbound :
    (∀ forms, Plain (Expr.constantsAll forms) → ∀ limit fuel m x m',
      (evalProgram limit fuel forms).run m = some (.error (.unbound x), m') →
        x ∈ Expr.freeForms forms) ∧
    (∀ forms, Plain (Expr.constantsAll forms) → Expr.freeForms forms = [] → ∀ limit fuel m x m',
      (evalProgram limit fuel forms).run m ≠ some (.error (.unbound x), m')) ∧
    ∀ comments base source forms, Program.ofSource comments base source = .ok forms →
      Plain (Expr.constantsAll forms) := by
  refine ⟨?_, ?_, ?_⟩
  · intro forms hplain limit fuel m x m' h
    exact mem_of_unbound hplain h
  · intro forms hplain hclosed limit fuel m x m' h
    have hx := mem_of_unbound hplain h
    rw [hclosed] at hx
    exact List.not_mem_nil hx
  · intro comments base source forms h
    exact Program.plain_of_ofSource h

theorem mem_freeForms_of_unbound_in_procedure :
    (evalProgram (some 20) 10 [.define "f" (.lambda (.mk [0] ["x"] [.var "y"])),
      .define "y" (.num 1), .app (.var "f") [.var "z"]]).run ⟨0, 0⟩ =
        some (.error (.unbound "y"), ⟨1, 3⟩) ∧
      "y" ∈ Expr.freeForms [.define "f" (.lambda (.mk [0] ["x"] [.var "y"])),
        .define "y" (.num 1), .app (.var "f") [.var "z"]] :=
  have h : (evalProgram (some 20) 10 [.define "f" (.lambda (.mk [0] ["x"] [.var "y"])),
      .define "y" (.num 1), .app (.var "f") [.var "z"]]).run ⟨0, 0⟩ =
        some (.error (.unbound "y"), ⟨1, 3⟩) := rfl
  have hplain : Plain (Expr.constantsAll [.define "f" (.lambda (.mk [0] ["x"] [.var "y"])),
      .define "y" (.num 1), .app (.var "f") [.var "z"]]) := List.forall_mem_nil _
  ⟨h, mem_freeForms_of_unbound.1 _ hplain _ _ _ _ _ h⟩

end CallByName
