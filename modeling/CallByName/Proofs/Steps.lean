import CallByName.Proofs.Rollback
import Mathlib.Tactic.SplitIfs

/-! The loop step by step. A step takes the lines of one input, or a single line with a command or
with nothing; the steps that end in an error can be left out with all their lines. -/

namespace CallByName

open Session (Same Alike)

namespace Notice

def renumber (ν : Renumbering) : Notice → Notice
  | .value v => .value (v.renumber ν)
  | n => n

def isFailure : Notice → Bool
  | .failure _ => true
  | _ => false

variable (ν : Renumbering) (n : Notice)

theorem text_renumber : (n.renumber ν).text = n.text := by
  cases n with
  | value v =>
    rw [renumber, text, text, lines, lines, ν.text_renumber]
  | _ => rfl

theorem isFailure_renumber : (n.renumber ν).isFailure = n.isFailure := by
  cases n <;> rfl

end Notice

namespace Repl

section

variable {s t : Session} {source : String}

theorem same_of_load {e : Error} (h : load s source = (.error e, t)) : Same s t := by
  rw [load] at h
  split at h
  · cases h
    exact ⟨rfl, rfl, rfl⟩
  · cases h
  · rename_i forms _ _
    cases hrun : s.run (some interactiveDepth) (interactiveDepth + 1) forms with
    | none =>
      rw [hrun] at h
      cases h
      exact ⟨rfl, rfl, rfl⟩
    | some r =>
      rw [hrun, Option.getD_some] at h
      subst h
      exact Session.same_of_run hrun

theorem bounded_of_load {v : Option Value} (hs : s.Bounded) (h : load s source = (.ok v, t)) :
    t.Bounded := by
  obtain ⟨forms, hforms, heval⟩ := load_eq_ok_iff.1 h
  cases forms with
  | nil =>
    obtain ⟨-, rfl⟩ := Session.evaluates_nil.1 heval
    exact hs
  | cons e es => exact hs.run hforms ((Session.run_eq_ok_iff (List.cons_ne_nil e es)).2 heval)

variable {ν : Renumbering}

theorem alike_load (h : s.Renumbered ν t) (source : String) :
    Alike ν (load s source) (load t source) := by
  rw [load, load, Program.ofSource_renumber h.forms]
  cases Program.ofSource true s.forms source with
  | error e => exact ⟨rfl, h⟩
  | ok forms =>
    cases forms with
    | nil => exact ⟨rfl, h⟩
    | cons e es =>
      have hrun := h.run (some interactiveDepth) (interactiveDepth + 1) (e :: es)
      change Alike ν ((s.run _ _ (e :: es)).getD _)
        ((t.run _ _ (Expr.renumberAll ν (e :: es))).getD _)
      generalize s.run (some interactiveDepth) (interactiveDepth + 1) (e :: es) = x at hrun ⊢
      generalize t.run (some interactiveDepth) (interactiveDepth + 1)
        (Expr.renumberAll ν (e :: es)) = y at hrun ⊢
      cases hrun with
      | none => exact ⟨rfl, h⟩
      | some hrun => exact hrun

end

structure Renumbered (ν : Renumbering) (r r' : Repl) : Prop where
  session : r.session.Renumbered ν r'.session
  pending : r'.pending = r.pending

variable {ν : Renumbering} {r r' : Repl}

theorem renumbered_start {s t : Session} (h : s.Renumbered ν t) :
    Renumbered ν (start s) (start t) := ⟨h, rfl⟩

theorem Renumbered.gather (h : Renumbered ν r r') (line : String) :
    (r'.gather line).1 = (r.gather line).1.map (Notice.renumber ν) ∧
      Renumbered ν (r.gather line).2 (r'.gather line).2 := by
  have hload := alike_load h.session (r.pending ++ line ++ "\n")
  rw [Repl.gather, Repl.gather, h.pending]
  generalize load r.session (r.pending ++ line ++ "\n") = x at hload ⊢
  generalize load r'.session (r.pending ++ line ++ "\n") = y at hload ⊢
  obtain ⟨x, s⟩ := x
  obtain ⟨_, t⟩ := y
  obtain ⟨rfl, hsession⟩ := hload
  rcases x with e | _ | v
  · dsimp only [Except.map]
    split
    · exact ⟨rfl, hsession, rfl⟩
    · exact ⟨rfl, hsession, rfl⟩
  · exact ⟨rfl, hsession, rfl⟩
  · exact ⟨rfl, hsession, rfl⟩

theorem Renumbered.read (h : Renumbered ν r r') (line : String) :
    (r'.read line).1 = (r.read line).1.map (Notice.renumber ν) ∧
      Option.Rel (Renumbered ν) (r.read line).2 (r'.read line).2 := by
  have hgather := h.gather line
  have hnames : r'.session.env.boundNames = r.session.env.boundNames := by
    rw [h.session.env, Env.boundNames_renumber]
  unfold Repl.read
  rw [h.pending, hnames]
  dsimp only
  split_ifs
  · exact ⟨rfl, .some h⟩
  · exact ⟨rfl, .some h⟩
  · exact ⟨rfl, .some h⟩
  · exact ⟨rfl, .none⟩
  · exact ⟨hgather.1, .some hgather.2⟩

variable {line : String} {lines : List String} {notices : List Notice}

theorem gather_cases (r : Repl) (line : String) :
    (∃ v s, load r.session (r.pending ++ line ++ "\n") = (.ok v, s) ∧
      r.gather line = (v.toList.map .value, start s)) ∨
    ∃ e s, load r.session (r.pending ++ line ++ "\n") = (.error e, s) ∧
      (r.gather line = ([], ⟨s, r.pending ++ line ++ "\n"⟩) ∨
        r.gather line = ([.failure e], start s)) := by
  cases hload : load r.session (r.pending ++ line ++ "\n") with
  | mk x s =>
    cases x with
    | ok v => exact .inl ⟨v, s, rfl, gather_of_load hload⟩
    | error e =>
      refine .inr ⟨e, s, rfl, ?_⟩
      rw [gather, hload]
      dsimp only
      split
      · exact .inl rfl
      · exact .inr rfl

theorem eq_start (h : r.pending.isEmpty = true) : r = start r.session := by
  obtain ⟨session, pending⟩ := r
  obtain rfl : pending = "" := by simpa using h
  rfl

theorem read_cases (h : r.read line = (notices, some r')) :
    (Same r.session r'.session ∧ notices = [] ∧ r'.pending.isEmpty = false) ∨
    ∃ s, r' = start s ∧ (Same r.session s ∧ notices.any Notice.isFailure = true ∨
      (r.session.Bounded → s.Bounded) ∧ notices.any Notice.isFailure = false) := by
  unfold read at h
  dsimp only at h
  have hstart {b : Bool} (hb : (r.pending.isEmpty && b) = true) : r = start r.session :=
    eq_start (Bool.and_eq_true_iff.1 hb).1
  split_ifs at h with hblank hhelp henv hquit
  · cases h
    exact .inr ⟨r.session, hstart hblank, .inr ⟨id, rfl⟩⟩
  · cases h
    exact .inr ⟨r.session, hstart hhelp, .inr ⟨id, rfl⟩⟩
  · cases h
    exact .inr ⟨r.session, hstart henv, .inr ⟨id, rfl⟩⟩
  · cases h
  · rcases gather_cases r line with ⟨v, s, hload, hgather⟩ | ⟨e, s, hload, hgather | hgather⟩
    · rw [hgather] at h
      cases h
      refine .inr ⟨s, rfl, .inr ⟨fun hs => bounded_of_load hs hload, ?_⟩⟩
      cases v <;> rfl
    · rw [hgather] at h
      cases h
      refine .inl ⟨same_of_load hload, rfl, ?_⟩
      simp
    · rw [hgather] at h
      cases h
      exact .inr ⟨s, rfl, .inl ⟨same_of_load hload, rfl⟩⟩

structure Step where
  lines : List String
  said : List String
  names : List String
  failed : Bool
  deriving DecidableEq, Repr

/-- The steps that some lines make, where the one under way has taken the lines `held` so far. A
step that fails uses up numbers, `spent k` where `k` lines are left. -/
def steps (spent : Nat → Nat × Nat) : Repl → List String → List String → List Step
  | r, held, [] => if held.isEmpty then [] else [⟨held, [], r.session.env.boundNames, false⟩]
  | r, held, line :: rest =>
    match r.read line with
    | (notices, none) =>
      [⟨held ++ [line], notices.map Notice.text, r.session.env.boundNames, false⟩]
    | (notices, some r') =>
      if r'.pending.isEmpty then
        let failed := notices.any Notice.isFailure
        let session := if failed then r'.session.ahead (spent rest.length) else r'.session
        ⟨held ++ [line], notices.map Notice.text, r'.session.env.boundNames, failed⟩ ::
          steps spent (start session) [] rest
      else steps spent r' (held ++ [line]) rest

variable {spent spent' : Nat → Nat × Nat} {held rest : List String} {s t : Session}

theorem steps_of_end (h : r.read line = (notices, none)) :
    r.steps spent held (line :: rest) =
      [⟨held ++ [line], notices.map Notice.text, r.session.env.boundNames, false⟩] := by
  rw [steps, h]

theorem steps_of_waiting (h : r.read line = (notices, some r')) (hp : r'.pending.isEmpty = false) :
    r.steps spent held (line :: rest) = r'.steps spent (held ++ [line]) rest := by
  rw [steps, h]
  simp only [hp, Bool.false_eq_true, if_false]

theorem steps_of_failed (h : r.read line = (notices, some (start s)))
    (hfailed : notices.any Notice.isFailure = true) :
    r.steps spent held (line :: rest) =
      ⟨held ++ [line], notices.map Notice.text, s.env.boundNames, true⟩ ::
        (start (s.ahead (spent rest.length))).steps spent [] rest := by
  rw [steps, h]
  simp only [start, hfailed, if_true]
  rfl

theorem steps_of_done (h : r.read line = (notices, some (start s)))
    (hdone : notices.any Notice.isFailure = false) :
    r.steps spent held (line :: rest) =
      ⟨held ++ [line], notices.map Notice.text, s.env.boundNames, false⟩ ::
        (start s).steps spent [] rest := by
  rw [steps, h]
  simp only [start, hdone, Bool.false_eq_true, if_false]
  rfl

theorem Renumbered.steps_eq (h : Renumbered ν r r') (held lines : List String) :
    r'.steps spent held lines = r.steps spent held lines := by
  induction lines generalizing r r' held with
  | nil => rw [steps, steps, h.session.env, Env.boundNames_renumber]
  | cons line rest ih =>
    have hread := h.read line
    rw [steps, steps]
    generalize r.read line = x at hread ⊢
    generalize r'.read line = y at hread ⊢
    obtain ⟨notices, x⟩ := x
    obtain ⟨_, y⟩ := y
    obtain ⟨rfl, hnext⟩ := hread
    have htexts : (notices.map (Notice.renumber ν)).map Notice.text = notices.map Notice.text := by
      rw [List.map_map]
      exact congrArg (List.map · notices) (funext (Notice.text_renumber ν))
    have hfailed : (notices.map (Notice.renumber ν)).any Notice.isFailure =
        notices.any Notice.isFailure := by
      rw [List.any_map]
      exact congrArg notices.any (funext (Notice.isFailure_renumber ν))
    cases hnext with
    | none =>
      dsimp only
      rw [htexts, h.session.env, Env.boundNames_renumber]
    | @some r₁ r₁' h₁ =>
      dsimp only
      rw [h₁.pending, htexts, hfailed, h₁.session.env, Env.boundNames_renumber]
      split
      · have hnext : Renumbered ν
            (start (if notices.any Notice.isFailure then r₁.session.ahead (spent rest.length)
              else r₁.session))
            (start (if notices.any Notice.isFailure then r₁'.session.ahead (spent rest.length)
              else r₁'.session)) := by
          split
          · exact renumbered_start h₁.session.ahead
          · exact renumbered_start h₁.session
        rw [ih hnext []]
      · exact ih h₁ _

theorem steps_of_same (h : Same s t) (lines : List String) :
    (start t).steps spent [] lines = (start s).steps spent [] lines :=
  (renumbered_start h.renumbered).steps_eq [] lines

theorem steps_ahead (hs : s.Bounded) (n : Nat × Nat) (lines : List String) :
    (start (s.ahead n)).steps spent [] lines = (start s).steps spent [] lines :=
  (renumbered_start hs.renumbered_ahead).steps_eq [] lines

theorem steps_kept (hr : r.session.Bounded)
    (hheld : ∀ rest, (start r.session).steps spent' [] (held ++ rest) = r.steps spent' held rest)
    (lines : List String) :
    (start r.session).steps spent' []
        (((r.steps spent held lines).filter (!·.failed)).flatMap Step.lines) =
      (r.steps spent held lines).filter (!·.failed) := by
  -- Along the lines; those of the step under way lead from where nothing waits to the state.
  induction lines generalizing r held with
  | nil =>
    rw [steps]
    split
    · rfl
    · rename_i hne
      rw [List.filter_cons_of_pos rfl, List.filter_nil, List.flatMap_singleton,
        ← List.append_nil held, hheld, steps, List.append_nil, if_neg hne]
  | cons line rest ih =>
    have hnext {s : Session} (hs : s.Bounded) : (start s).steps spent' []
        ((((start s).steps spent [] rest).filter (!·.failed)).flatMap Step.lines) =
          ((start s).steps spent [] rest).filter (!·.failed) :=
      ih (r := start s) hs fun _ => rfl
    cases hread : r.read line with
    | mk notices next =>
      cases next with
      | none =>
        rw [steps_of_end hread, List.filter_cons_of_pos rfl, List.filter_nil,
          List.flatMap_singleton, hheld, steps_of_end hread]
      | some r' =>
        rcases read_cases hread with ⟨hsame, -, hp⟩ | ⟨s, rfl, ⟨hsame, hfailed⟩ | ⟨hbounded, hdone⟩⟩
        · rw [steps_of_waiting hread hp, ← steps_of_same hsame]
          refine ih (hsame.bounded hr) fun rest => ?_
          rw [steps_of_same hsame, List.append_assoc, List.singleton_append, hheld,
            steps_of_waiting hread hp]
        · rw [steps_of_failed hread hfailed, List.filter_cons_of_neg Bool.false_ne_true,
            ← steps_of_same hsame, ← steps_ahead (hsame.bounded hr) (spent rest.length)]
          exact hnext (hsame.bounded hr).ahead
        · rw [steps_of_done hread hdone, List.filter_cons_of_pos rfl, List.flatMap_cons,
            List.append_assoc, List.singleton_append, hheld, steps_of_done hread hdone,
            hnext (hbounded hr)]

theorem readLines_eq_steps (r : Repl) (held lines : List String) :
    (r.readLines lines).map Notice.text =
      (r.steps (fun _ => (0, 0)) held lines).flatMap Step.said ++
        if (r.afterLines lines).2.isSome then [Notice.farewell.text] else [] := by
  induction lines generalizing r held with
  | nil =>
    rw [readLines, steps, afterLines]
    split <;> rfl
  | cons line rest ih =>
    rw [readLines, afterLines]
    cases hread : r.read line with
    | mk notices next =>
      cases next with
      | none =>
        rw [steps_of_end hread]
        simp
      | some r' =>
        dsimp only
        rcases read_cases hread with ⟨-, rfl, hp⟩ | ⟨s, rfl, ⟨-, hfailed⟩ | ⟨-, hdone⟩⟩
        · rw [steps_of_waiting hread hp, List.nil_append, ih r' (held ++ [line])]
        · rw [steps_of_failed hread hfailed, List.map_append, ih _ [], List.flatMap_cons,
            List.append_assoc, Session.ahead_zero]
        · rw [steps_of_done hread hdone, List.map_append, ih _ [], List.flatMap_cons,
            List.append_assoc]

theorem bounded_of_opened {file : Option String} {shown : List Notice}
    (h : opened file = .ok (shown, r)) : r = start r.session ∧ r.session.Bounded := by
  cases file with
  | none =>
    cases h
    exact ⟨rfl, Session.bounded_initial⟩
  | some source =>
    obtain ⟨v, s, hload, -, rfl⟩ := opened_eq_ok_iff.1 h
    exact ⟨rfl, bounded_of_load Session.bounded_initial hload⟩

end Repl

/-- Inputs that fail leave no trace, under any limit of the depth: without them, all other inputs of
a session come to the same, and without the lines of the steps that fail, all other steps of the
loop are the same, whatever has been loaded first. That is so whichever numbers of forms and frames
have been used up by what failed. -/
theorem failures_leave_no_trace (spent spent' : Nat → Nat × Nat) :
    (∀ comments limit fuel sources outcomes,
      Session.initial.outcomes spent comments limit fuel sources = some outcomes →
      Session.initial.outcomes spent' comments limit fuel (Session.kept sources outcomes) =
        some (outcomes.filter Option.isSome)) ∧
    ∀ file shown r, Repl.opened file = .ok (shown, r) → ∀ lines,
      r.steps spent' [] (((r.steps spent [] lines).filter (!·.failed)).flatMap Repl.Step.lines) =
        (r.steps spent [] lines).filter (!·.failed) := by
  refine ⟨fun _ _ _ _ _ => Session.bounded_initial.outcomes_kept, ?_⟩
  intro file shown r hopened lines
  obtain ⟨hstart, hbounded⟩ := Repl.bounded_of_opened hopened
  rw [hstart]
  exact Repl.steps_kept (r := .start r.session) hbounded (fun _ => rfl) lines

theorem failures_leave_no_trace_of_definitions :
    (Session.initial.outcomes (fun k => (k, 1)) true (some 10) 10
        ["(define (f) f)", "(define f 2) (g)", "(equal? f f)"] =
      some [some ⟨none, ["f"]⟩, none, some ⟨some "#t", ["f"]⟩] ∧
    Session.initial.outcomes (fun _ => (0, 0)) true (some 10) 10
        ["(define (f) f)", "(equal? f f)"] =
      some [some ⟨none, ["f"]⟩, some ⟨some "#t", ["f"]⟩]) ∧
    ∃ failed : Repl.Step, failed.failed = true ∧
      (Repl.start .initial).steps (fun k => (k, 1)) [] ["(define f 2) (g)", ":env"] =
        [failed, ⟨[":env"], ["Environment is empty.\n"], [], false⟩] ∧
      (Repl.start .initial).steps (fun _ => (0, 0)) [] [":env"] =
        [⟨[":env"], ["Environment is empty.\n"], [], false⟩] := by
  have hparse₁ : Program.ofSource true 0 "(define (f) f)" =
      .ok [.define "f" (.lambda (.mk [0] [] [.var "f"]))] :=
    Program.ofSource_eq_ok_iff.2
      ⟨[.list [.sym "define", .list [.sym "f"], .sym "f"]], rfl, rfl⟩
  have hparse₂ (base : Nat) : Program.ofSource true base "(define f 2) (g)" =
      .ok [.define "f" (.num 2), .app (.var "g") []] :=
    Program.ofSource_eq_ok_iff.2
      ⟨[.list [.sym "define", .sym "f", .num 2], .list [.sym "g"]], rfl, rfl⟩
  have hparse₃ (base : Nat) : Program.ofSource true base "(equal? f f)" =
      .ok [.app (.prim .equal) [.var "f", .var "f"]] :=
    Program.ofSource_eq_ok_iff.2 ⟨[.list [.sym "equal?", .sym "f", .sym "f"]], rfl, rfl⟩
  have hsession : Session.initial.outcomes (fun k => (k, 1)) true (some 10) 10
        ["(define (f) f)", "(define f 2) (g)", "(equal? f f)"] =
      some [some ⟨none, ["f"]⟩, none, some ⟨some "#t", ["f"]⟩] := by
    have hinput₁ : Session.initial.input true (some 10) 10 "(define (f) f)" =
        some (.ok none, ⟨.bindRec 1 [("f", .mk [0] [] [.var "f"])] .empty, 1, ⟨0, 1⟩⟩) := by
      rw [Session.input, Session.initial, hparse₁]
      rfl
    have hinput₂ : Session.input true (some 10) 10
        ⟨.bindRec 1 [("f", .mk [0] [] [.var "f"])] .empty, 1, ⟨0, 1⟩⟩ "(define f 2) (g)" =
        some (.error (.unbound "g"),
          ⟨.bindRec 1 [("f", .mk [0] [] [.var "f"])] .empty, 1, ⟨0, 1⟩⟩) := by
      rw [Session.input, hparse₂]
      rfl
    have hinput₃ : Session.input true (some 10) 10
        ⟨.bindRec 1 [("f", .mk [0] [] [.var "f"])] .empty, 2, ⟨0, 2⟩⟩ "(equal? f f)" =
        some (.ok (some (.bool true)),
          ⟨.bindRec 1 [("f", .mk [0] [] [.var "f"])] .empty, 3, ⟨2, 2⟩⟩) := by
      rw [Session.input, hparse₃]
      rfl
    rw [Session.outcomes, hinput₁]
    dsimp only
    rw [Session.outcomes, hinput₂]
    dsimp only
    rw [Session.outcomes, Session.ahead]
    dsimp only [List.length]
    rw [hinput₃]
    rfl
  have hsteps : (Repl.start .initial).steps (fun k => (k, 1)) [] ["(define f 2) (g)", ":env"] =
      [⟨["(define f 2) (g)"], [(Notice.failure (.unbound "g")).text], [], true⟩,
        ⟨[":env"], ["Environment is empty.\n"], [], false⟩] := by
    have hload : Repl.load .initial ("" ++ "(define f 2) (g)" ++ "\n") =
        (.error (.unbound "g"), .initial) := by
      have hforms : Program.ofSource true 0 ("" ++ "(define f 2) (g)" ++ "\n") =
          .ok [.define "f" (.num 2), .app (.var "g") []] :=
        Program.ofSource_eq_ok_iff.2
          ⟨[.list [.sym "define", .sym "f", .num 2], .list [.sym "g"]], rfl, rfl⟩
      rw [Repl.load, Session.initial, hforms]
      rfl
    have hread : (Repl.start .initial).read "(define f 2) (g)" =
        ([.failure (.unbound "g")], some (.start .initial)) := by
      have hhead : (Text.trim "(define f 2) (g)".toList).head? = some '(' := by decide
      have htrim : Text.trim "(define f 2) (g)".toList ≠ [] ∧
          ∀ name, Text.trim "(define f 2) (g)".toList ≠ ':' :: name := by
        refine ⟨by decide, fun name hname => ?_⟩
        rw [hname] at hhead
        cases hhead
      have hgather : (Repl.start .initial).gather "(define f 2) (g)" =
          ([.failure (.unbound "g")], .start .initial) := by
        rw [Repl.gather, Repl.start, hload]
        rfl
      rw [Repl.read_eq_gather (.inr htrim), hgather]
    have hnames : (Repl.start (Session.initial.ahead (1, 1))).read ":env" =
        ([.names []], some (.start (Session.initial.ahead (1, 1)))) := rfl
    have htext : Notice.text (.names []) = "Environment is empty.\n" := by decide
    rw [Repl.steps_of_failed hread rfl, List.length_singleton, Repl.steps_of_done hnames rfl,
      Repl.steps, List.map_singleton, List.map_singleton, htext]
    rfl
  have htrace := failures_leave_no_trace (fun k => (k, 1)) fun _ => (0, 0)
  have hinputs := htrace.1 _ _ _ _ _ hsession
  have hopened : Repl.opened none = .ok ([], .start .initial) := rfl
  have hlines := htrace.2 _ _ _ hopened ["(define f 2) (g)", ":env"]
  rw [hsteps, List.filter_cons_of_neg Bool.false_ne_true, List.filter_cons_of_pos rfl,
    List.filter_nil, List.flatMap_singleton] at hlines
  exact ⟨⟨hsession, hinputs⟩, ⟨_, _, _, true⟩, rfl, hsteps, hlines⟩

end CallByName
