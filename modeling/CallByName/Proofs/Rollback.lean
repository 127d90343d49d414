import CallByName.Proofs.Frames
import CallByName.Proofs.Loading
import CallByName.Proofs.Placement

/-! Inputs that fail leave no trace. What a failed input has defined is gone, and the numbers of
forms and frames that it may have used up make no difference to anything after it: whether they are
given back or not, the inputs that succeed come to the same without it. -/

namespace CallByName

namespace Renumbering

def leavingOut (forms frames : Nat) (n : Nat × Nat) : Renumbering where
  form i := if i < forms then i else i + n.1
  frame i := if i ≤ frames then i else i + n.2
  form_injective := by
    intro i j h
    dsimp only at h
    split at h <;> split at h <;> omega
  frame_injective := by
    intro i j h
    dsimp only at h
    split at h <;> split at h <;> omega
  frame_zero := if_pos (Nat.zero_le frames)

theorem keepsForms_leavingOut (forms frames n : Nat) :
    (leavingOut forms frames (0, n)).KeepsForms := fun i => ite_self i

end Renumbering

def Env.Below (forms frames : Nat) (env : Env) : Prop :=
  ∀ ν ν' : Renumbering, (∀ i < forms, ν.form i = ν'.form i) →
    (∀ i ≤ frames, ν.frame i = ν'.frame i) → env.renumber ν = env.renumber ν'

theorem Env.Below.mono {forms frames forms' frames' : Nat} {env : Env} (h : env.Below forms frames)
    (hforms : forms ≤ forms') (hframes : frames ≤ frames') : env.Below forms' frames' :=
  fun ν ν' hform hframe => h ν ν' (fun i hi => hform i (Nat.lt_of_lt_of_le hi hforms))
    fun i hi => hframe i (Nat.le_trans hi hframes)

theorem frames_le_of_eval {limit : Option Nat} {fuel d : Nat} {e : Expr} {ε : Env} {m m' : Meter}
    {r : Except Error Value} (h : (eval limit fuel d e ε).run m = some (r, m')) :
    m.frames ≤ m'.frames := by
  have hm : (Renumbering.refl.simulation m m).meter m m := ⟨rfl, Nat.le_refl _, fun _ => rfl⟩
  have hfollows := Renumbering.refl.follows_eval m m limit fuel d e ε hm h
  rcases hfollows with ⟨_, -, hcut⟩ | ⟨_, _, -, -, hm'⟩
  · exact hcut.elim
  · exact hm'.2.1

theorem below_of_runForms {limit : Option Nat} {fuel d n : Nat} {forms : List Expr}
    {v w : Option Value} {ε ε' : Env} {m m' : Meter}
    (hforms : ∀ ν ν' : Renumbering, (∀ i < n, ν.form i = ν'.form i) →
      Expr.renumberAll ν forms = Expr.renumberAll ν' forms)
    (hε : ε.Below n m.frames)
    (h : (forms.foldlM (fun s form => runForm (eval limit fuel d) s.2 form) (v, ε)).run m =
      some (.ok (w, ε'), m')) : ε'.Below n m'.frames := by
  -- Along the forms: a definition has the next number of a frame, and an expression changes nothing
  -- but the count.
  induction forms generalizing v ε m with
  | nil =>
    cases h
    exact hε
  | cons e forms ih =>
    have hrest : ∀ ν ν' : Renumbering, (∀ i < n, ν.form i = ν'.form i) →
        Expr.renumberAll ν forms = Expr.renumberAll ν' forms :=
      fun ν ν' hform => (List.cons.inj (hforms ν ν' hform)).2
    rw [List.foldlM_cons, EvalM.run_bind_eq_ok_iff] at h
    obtain ⟨⟨v₁, ε₁⟩, m₁, hfirst, h⟩ := h
    refine ih hrest ?_ h
    obtain ⟨x, value, rfl, -, rfl, rfl⟩ | ⟨-, rfl, w, -, heval⟩ := runForm_cases hfirst
    · intro ν ν' hform hframe
      have hvalue : value.renumber ν = value.renumber ν' := by
        have hdefine := (List.cons.inj (hforms ν ν' hform)).1
        rw [Expr.renumber, Expr.renumber] at hdefine
        injection hdefine
      rw [Env.renumber_withDefinition, Env.renumber_withDefinition, hvalue,
        hframe _ (Nat.le_refl _), hε ν ν' hform fun i hi => hframe i (Nat.le_succ_of_le hi)]
    · exact hε.mono (Nat.le_refl n) (frames_le_of_eval heval)

namespace Session

def ahead (s : Session) (n : Nat × Nat) : Session :=
  ⟨s.env, s.forms + n.1, ⟨s.meter.lookups, s.meter.frames + n.2⟩⟩

@[simp] theorem ahead_zero (s : Session) : s.ahead (0, 0) = s := rfl

structure Renumbered (ν : Renumbering) (s t : Session) : Prop where
  env : t.env = s.env.renumber ν
  forms : Parallel ν.form s.forms t.forms
  frames : Parallel ν.frame (s.meter.frames + 1) (t.meter.frames + 1)

structure Same (s t : Session) : Prop where
  env : s.env = t.env
  forms : s.forms = t.forms
  frames : s.meter.frames = t.meter.frames

theorem Same.renumbered {s t : Session} (h : Same s t) : Renumbered .refl s t where
  env := by rw [Env.renumber_refl, h.env]
  forms k := by
    rw [← h.forms]
    rfl
  frames k := by
    rw [← h.frames]
    rfl

def Bounded (s : Session) : Prop := s.env.Below s.forms s.meter.frames

theorem bounded_initial : initial.Bounded := fun _ _ _ _ => rfl

variable {s t : Session} {n : Nat × Nat}

theorem Same.bounded (h : Same s t) (hs : s.Bounded) : t.Bounded := by
  rwa [Bounded, ← h.env, ← h.forms, ← h.frames]

theorem Bounded.ahead (hs : s.Bounded) : (s.ahead n).Bounded :=
  hs.mono (Nat.le_add_right _ _) (Nat.le_add_right _ _)

theorem Bounded.renumbered_ahead (hs : s.Bounded) :
    Renumbered (.leavingOut s.forms s.meter.frames n) s (s.ahead n) where
  env := by
    have hold := hs .refl (.leavingOut s.forms s.meter.frames n) (fun i hi => (if_pos hi).symm)
      fun i hi => (if_pos hi).symm
    rw [← hold, Env.renumber_refl]
    rfl
  forms k := by
    have hk : ¬ s.forms + k < s.forms := by omega
    exact (if_neg hk).trans (Nat.add_right_comm _ _ _)
  frames k := by
    have hk : ¬ s.meter.frames + 1 + k ≤ s.meter.frames := by omega
    refine (if_neg hk).trans ?_
    dsimp only [Session.ahead]
    omega

variable {ν : Renumbering}

theorem Renumbered.ahead (h : Renumbered ν s t) : Renumbered ν (s.ahead n) (t.ahead n) where
  env := h.env
  forms := h.forms.add n.1
  frames := by
    have hframes := h.frames.add n.2
    rwa [Nat.add_right_comm, Nat.add_right_comm t.meter.frames] at hframes

structure Alike (ν : Renumbering) (r r' : Except Error (Option Value) × Session) : Prop where
  result : r'.1 = r.1.map (Option.map (Value.renumber ν))
  session : Renumbered ν r.2 r'.2

theorem Renumbered.run (h : Renumbered ν s t) (limit : Option Nat) (fuel : Nat)
    (forms : List Expr) : Option.Rel (Alike ν) (s.run limit fuel forms)
      (t.run limit fuel (Expr.renumberAll ν forms)) := by
  cases forms with
  | nil => exact .some ⟨rfl, h⟩
  | cons e es =>
    have hlength : (Expr.renumberAll ν (e :: es)).length = (e :: es).length := by
      rw [Expr.renumberAll_eq_map, List.length_map]
    have hmeter : (ν.simulation s.meter t.meter).meter s.meter t.meter :=
      ⟨Nat.add_comm _ _, Nat.le_refl _, h.frames⟩
    have hrel := ν.rel_runForms s.meter t.meter hmeter limit fuel 1 (e :: es) s.env
    rw [← h.env] at hrel
    change Option.Rel (Alike ν) (((runForms (eval limit fuel 1) (e :: es) s.env).run s.meter).map _)
      (((runForms (eval limit fuel 1) (Expr.renumberAll ν (e :: es)) t.env).run t.meter).map _)
    generalize (runForms (eval limit fuel 1) (e :: es) s.env).run s.meter = x at hrel ⊢
    generalize (runForms (eval limit fuel 1) (Expr.renumberAll ν (e :: es)) t.env).run t.meter = y
      at hrel ⊢
    cases hrel with
    | none => exact .none
    | @some r r' hrel =>
      obtain ⟨r, m⟩ := r
      obtain ⟨r', m'⟩ := r'
      obtain ⟨hr, -, -, hframes⟩ := hrel
      cases hr with
      | error he =>
        obtain rfl := he
        exact .some ⟨rfl, h.env, h.forms, h.frames⟩
      | ok hok =>
        obtain rfl := hok
        refine .some ⟨rfl, rfl, ?_, hframes⟩
        rw [hlength]
        exact h.forms.add _

theorem Renumbered.input (h : Renumbered ν s t) (comments : Bool) (limit : Option Nat) (fuel : Nat)
    (source : String) : Option.Rel (Alike ν) (s.input comments limit fuel source)
      (t.input comments limit fuel source) := by
  rw [Session.input, Session.input, Program.ofSource_renumber h.forms]
  cases Program.ofSource comments s.forms source with
  | error e => exact .some ⟨rfl, h⟩
  | ok forms => exact h.run limit fuel forms

theorem same_of_run {limit : Option Nat} {fuel : Nat} {forms : List Expr} {e : Error}
    (h : s.run limit fuel forms = some (.error e, t)) : Same s t := by
  obtain ⟨⟨r, m⟩, -, h⟩ := Option.map_eq_some_iff.1 h
  cases r with
  | error e =>
    cases h
    exact ⟨rfl, rfl, rfl⟩
  | ok a => cases h

theorem same_of_input {comments : Bool} {limit : Option Nat} {fuel : Nat} {source : String}
    {e : Error} (h : s.input comments limit fuel source = some (.error e, t)) : Same s t := by
  rw [Session.input] at h
  cases hforms : Program.ofSource comments s.forms source with
  | error e =>
    rw [hforms] at h
    cases h
    exact ⟨rfl, rfl, rfl⟩
  | ok forms =>
    rw [hforms] at h
    exact same_of_run h

theorem Bounded.run (hs : s.Bounded) {comments : Bool} {source : String} {limit : Option Nat}
    {fuel : Nat} {forms : List Expr} {v : Option Value}
    (hforms : Program.ofSource comments s.forms source = .ok forms)
    (h : s.run limit fuel forms = some (.ok v, t)) : t.Bounded := by
  obtain ⟨ds, -, hforms⟩ := Program.ofSource_eq_ok_iff.1 hforms
  obtain ⟨⟨r, m⟩, hrun, h⟩ := Option.map_eq_some_iff.1 h
  cases r with
  | error e => cases h
  | ok a =>
    cases h
    cases forms with
    | nil => cases hrun
    | cons e es =>
      exact below_of_runForms (fun ν ν' hform => Expr.renumberAll_congr hforms hform)
        (hs.mono (Nat.le_add_right _ _) (Nat.le_refl _)) hrun

theorem Bounded.input (hs : s.Bounded) {comments : Bool} {limit : Option Nat} {fuel : Nat}
    {source : String} {v : Option Value}
    (h : s.input comments limit fuel source = some (.ok v, t)) : t.Bounded := by
  rw [Session.input] at h
  cases hforms : Program.ofSource comments s.forms source with
  | error e =>
    rw [hforms] at h
    cases h
  | ok forms =>
    rw [hforms] at h
    exact hs.run hforms h

structure Outcome where
  value : Option String
  names : List String
  deriving DecidableEq, Repr

/-- What inputs come to one after the other, where those that fail come to nothing but use up
numbers, `spent k` where `k` inputs are left. There is no result if the fuel does not suffice. -/
def outcomes (spent : Nat → Nat × Nat) (comments : Bool) (limit : Option Nat) (fuel : Nat) :
    Session → List String → Option (List (Option Outcome))
  | _, [] => some []
  | s, source :: rest =>
    match s.input comments limit fuel source with
    | none => none
    | some (.ok v, s) =>
      (outcomes spent comments limit fuel s rest).map
        (some ⟨v.map Value.text, s.env.boundNames⟩ :: ·)
    | some (.error _, s) =>
      (outcomes spent comments limit fuel (s.ahead (spent rest.length)) rest).map (none :: ·)

def kept (sources : List String) (outcomes : List (Option Outcome)) : List String :=
  ((sources.zip outcomes).filter (·.2.isSome)).map Prod.fst

variable {spent spent' : Nat → Nat × Nat} {comments : Bool} {limit : Option Nat} {fuel : Nat}

theorem Renumbered.outcomes_eq (h : Renumbered ν s t) (sources : List String) :
    outcomes spent comments limit fuel s sources =
      outcomes spent comments limit fuel t sources := by
  induction sources generalizing s t with
  | nil => rfl
  | cons source rest ih =>
    have hinput := h.input comments limit fuel source
    rw [outcomes, outcomes]
    generalize s.input comments limit fuel source = x at hinput ⊢
    generalize t.input comments limit fuel source = y at hinput ⊢
    cases hinput with
    | none => rfl
    | @some r r' hrel =>
      obtain ⟨r, s'⟩ := r
      obtain ⟨_, t'⟩ := r'
      obtain ⟨rfl, hsession⟩ := hrel
      cases r with
      | error e =>
        dsimp only [Except.map]
        rw [ih hsession.ahead]
      | ok v =>
        have hvalue : (v.map (Value.renumber ν)).map Value.text = v.map Value.text := by
          rw [Option.map_map]
          exact congrArg (Option.map · v) (funext ν.text_renumber)
        dsimp only [Except.map]
        rw [hvalue, hsession.env, Env.boundNames_renumber, ih hsession]

theorem Bounded.outcomes_kept (hs : s.Bounded) {sources : List String}
    {os : List (Option Outcome)} (h : outcomes spent comments limit fuel s sources = some os) :
    outcomes spent' comments limit fuel s (kept sources os) = some (os.filter Option.isSome) := by
  induction sources generalizing s os with
  | nil =>
    cases h
    rfl
  | cons source rest ih =>
    rw [outcomes] at h
    cases hinput : s.input comments limit fuel source with
    | none =>
      rw [hinput] at h
      cases h
    | some r =>
      obtain ⟨e | v, s'⟩ := r
      · rw [hinput] at h
        obtain ⟨os', hrest, rfl⟩ := Option.map_eq_some_iff.1 h
        -- What the failed input leaves is the session, with other numbers.
        have hsame := same_of_input hinput
        rw [← (hsame.bounded hs).renumbered_ahead.outcomes_eq, ← hsame.renumbered.outcomes_eq]
          at hrest
        exact ih hs hrest
      · rw [hinput] at h
        obtain ⟨os', hrest, rfl⟩ := Option.map_eq_some_iff.1 h
        change outcomes spent' comments limit fuel s (source :: kept rest os') = _
        rw [outcomes, hinput]
        dsimp only
        rw [ih (hs.input hinput) hrest]
        rfl

end Session

end CallByName
