import CallByName.Eval
import CallByName.Proofs.Bindings
import Mathlib.Data.List.Induction

/-! Environments as finite maps. An environment is built by extensions, each with names and, beside
them, what they are bound to. Looking a name up and listing all names walk along it separately, and
both find the first position of a name in the innermost extension that has it. -/

namespace CallByName

theorem lookup_zip_eq {β : Type} (names : List String) (bs : List β) (x : String) :
    (names.zip bs).lookup x = (names.idxOf? x).bind (bs[·]?) := by
  induction names generalizing bs with
  | nil => rfl
  | cons y names ih =>
    cases bs with
    | nil => simp
    | cons b bs =>
      rw [List.zip_cons_cons, List.lookup_cons, List.idxOf?_cons, Bool.beq_comm]
      cases y == x with
      | true => rfl
      | false =>
        rw [ih]
        cases names.idxOf? x <;> rfl

theorem eraseDups_concat (xs : List String) (x : String) :
    (xs ++ [x]).eraseDups = if x ∈ xs then xs.eraseDups else xs.eraseDups ++ [x] := by
  rw [List.eraseDups_append, List.removeAll]
  by_cases h : x ∈ xs <;> simp [h, List.eraseDups_cons]

theorem pairwise_idxOf_eraseDups (xs : List String) :
    xs.eraseDups.Pairwise fun x y => xs.idxOf x < xs.idxOf y := by
  induction xs using List.reverseRecOn with
  | nil => exact .nil
  | append_singleton xs z ih =>
    have hold : xs.eraseDups.Pairwise fun x y => (xs ++ [z]).idxOf x < (xs ++ [z]).idxOf y := by
      refine ih.imp_of_mem fun hx hy h => ?_
      rwa [List.idxOf_append_of_mem (List.mem_eraseDups.1 hx),
        List.idxOf_append_of_mem (List.mem_eraseDups.1 hy)]
    rw [eraseDups_concat]
    split
    · exact hold
    · rename_i hz
      refine List.pairwise_append.2 ⟨hold, List.pairwise_singleton _ _, fun x hx y hy => ?_⟩
      obtain rfl := List.mem_singleton.1 hy
      rw [List.idxOf_append_of_mem (List.mem_eraseDups.1 hx), List.idxOf_append_of_notMem hz]
      exact Nat.lt_add_right _ (List.idxOf_lt_length_iff.2 (List.mem_eraseDups.1 hx))

inductive Extension
  | deferred (names : List String) (exprs : List Expr) (scope : Env)
  | recursive (names : List String) (procs : List Lambda)

namespace Extension

def names : Extension → List String
  | deferred names _ _ => names
  | recursive names _ => names

def Matching : Extension → Prop
  | deferred names exprs _ => names.length = exprs.length
  | recursive names procs => names.length = procs.length

def item? (frame : Env) (i : Nat) : Extension → Option Deferred
  | deferred _ exprs scope => exprs[i]?.map (⟨·, scope⟩)
  | recursive _ procs => procs[i]?.map (⟨.lambda ·, frame⟩)

def extend (env : Env) : Extension → EvalM Env
  | deferred names exprs scope => env.extend (names.zip exprs) scope
  | recursive names procs => env.extendRec (names.zip procs)

def frame (i : Nat) (env : Env) : Extension → Env
  | deferred names exprs scope => .bind i (names.zip exprs) scope env
  | recursive names procs => .bindRec i (names.zip procs) env

variable {ext : Extension} {env : Env} {x : String} {i : Nat}

theorem run_extend (ext : Extension) (env : Env) (m : Meter) : (ext.extend env).run m =
    some (.ok (ext.frame (m.frames + 1) env), ⟨m.lookups, m.frames + 1⟩) := by
  cases ext <;> rfl

theorem exists_item (hmatch : ext.Matching) (hi : ext.names.idxOf? x = some i) (frame : Env) :
    ∃ d, ext.item? frame i = some d := by
  obtain ⟨hlt, -⟩ := List.idxOf?_eq_some_iff.1 hi
  cases ext with
  | deferred names exprs scope =>
    have hlt : i < exprs.length := hmatch ▸ hlt
    exact ⟨⟨exprs[i], scope⟩, by simp [item?, hlt]⟩
  | recursive names procs =>
    have hlt : i < procs.length := hmatch ▸ hlt
    exact ⟨⟨.lambda procs[i], frame⟩, by simp [item?, hlt]⟩

theorem lookup?_frame_of_idxOf? (hmatch : ext.Matching) (hi : ext.names.idxOf? x = some i)
    (id : Nat) (env : Env) : (ext.frame id env).lookup? x = ext.item? (ext.frame id env) i := by
  obtain ⟨d, hd⟩ := exists_item hmatch hi (ext.frame id env)
  rw [hd]
  cases ext with
  | deferred names exprs scope =>
    obtain ⟨e, he, rfl⟩ := Option.map_eq_some_iff.1 hd
    refine Env.lookup?_bind_of_mem ?_
    rw [lookup_zip_eq, show names.idxOf? x = some i from hi, Option.bind_some, he]
  | recursive names procs =>
    obtain ⟨p, hp, rfl⟩ := Option.map_eq_some_iff.1 hd
    refine Env.lookup?_bindRec_of_mem ?_
    rw [lookup_zip_eq, show names.idxOf? x = some i from hi, Option.bind_some, hp]

theorem lookup?_frame_of_notMem (h : x ∉ ext.names) (id : Nat) (env : Env) :
    (ext.frame id env).lookup? x = env.lookup? x := by
  have hnone := List.idxOf?_eq_none_iff.2 h
  cases ext with
  | deferred names exprs scope =>
    rw [frame, Env.lookup?, lookup_zip_eq, show names.idxOf? x = none from hnone]
    rfl
  | recursive names procs =>
    rw [frame, Env.lookup?, lookup_zip_eq, show names.idxOf? x = none from hnone]
    rfl

theorem names_frame (hmatch : ext.Matching) (id : Nat) (env : Env) :
    (ext.frame id env).names = ext.names ++ env.names := by
  cases ext with
  | deferred names exprs scope =>
    rw [frame, Env.names, List.map_fst_zip (Nat.le_of_eq hmatch)]
    rfl
  | recursive names procs =>
    rw [frame, Env.names, List.map_fst_zip (Nat.le_of_eq hmatch)]
    rfl

end Extension

inductive Env.Built : List (Extension × Env) → Env → Prop
  | empty : Built [] .empty
  | extend {history : List (Extension × Env)} {env env' : Env} {ext : Extension} {m m' : Meter}
    (h : Built history env) (hmatch : ext.Matching)
    (hrun : (ext.extend env).run m = some (.ok env', m')) : Built ((ext, env') :: history) env'

/-- The innermost extension that has a name, how many others are nearer, and the first position of
the name in it. -/
inductive Nearest (x : String) : List (Extension × Env) → Nat → Nat → Extension × Env → Prop
  | here {ext : Extension} {frame : Env} {history : List (Extension × Env)} {i : Nat}
    (h : ext.names.idxOf? x = some i) : Nearest x ((ext, frame) :: history) 0 i (ext, frame)
  | outer {ext : Extension} {frame : Env} {history : List (Extension × Env)} {k i : Nat}
    {found : Extension × Env} (h : x ∉ ext.names) (rest : Nearest x history k i found) :
    Nearest x ((ext, frame) :: history) (k + 1) i found

/-- Bound nearer, or in the same frame farther to the front. -/
def BoundBefore (history : List (Extension × Env)) (x y : String) : Prop :=
  ∃ k i found l j found', Nearest x history k i found ∧ Nearest y history l j found' ∧
    (k < l ∨ k = l ∧ i < j)

section

variable {history : List (Extension × Env)} {env : Env} {x y : String} {k l i j : Nat}
  {found found' : Extension × Env}

theorem Nearest.mem (h : Nearest x history k i found) :
    found ∈ history ∧ found.1.names.idxOf? x = some i := by
  induction h with
  | here h => exact ⟨List.mem_cons_self, h⟩
  | outer _ _ ih => exact ⟨List.mem_cons_of_mem _ ih.1, ih.2⟩

theorem exists_nearest_iff :
    (∃ k i found, Nearest x history k i found) ↔ x ∈ history.flatMap (·.1.names) := by
  rw [List.mem_flatMap]
  constructor
  · rintro ⟨k, i, found, h⟩
    exact ⟨found, h.mem.1, List.isSome_idxOf?.1 (h.mem.2 ▸ rfl)⟩
  · rintro ⟨e, he, hx⟩
    induction history with
    | nil => cases he
    | cons latest history ih =>
      by_cases hlatest : x ∈ latest.1.names
      · obtain ⟨i, hi⟩ := Option.isSome_iff_exists.1 (List.isSome_idxOf?.2 hlatest)
        exact ⟨0, i, latest, .here hi⟩
      · obtain rfl | he := List.mem_cons.1 he
        · exact absurd hx hlatest
        · obtain ⟨k, i, found, h⟩ := ih he
          exact ⟨k + 1, i, found, .outer hlatest h⟩

theorem Nearest.lt_of_idxOf_lt (hx : Nearest x history k i found)
    (hy : Nearest y history l j found')
    (h : (history.flatMap (·.1.names)).idxOf x < (history.flatMap (·.1.names)).idxOf y) :
    k < l ∨ k = l ∧ i < j := by
  induction hx generalizing l j found' with
  | @here ext frame history i hi =>
    cases hy with
    | here hj =>
      rw [List.flatMap_cons, List.idxOf_append_of_mem (List.isSome_idxOf?.1 (hi ▸ rfl)),
        List.idxOf_append_of_mem (List.isSome_idxOf?.1 (hj ▸ rfl)), List.idxOf_eq_getD_idxOf?,
        List.idxOf_eq_getD_idxOf?, hi, hj] at h
      exact .inr ⟨rfl, h⟩
    | outer => exact .inl (Nat.succ_pos _)
  | @outer ext frame history k i found hnot hx ih =>
    rw [List.flatMap_cons, List.idxOf_append_of_notMem hnot] at h
    cases hy with
    | here hj =>
      have hmem : y ∈ ext.names := List.isSome_idxOf?.1 (hj ▸ rfl)
      have hlt := List.idxOf_lt_length_iff.2 hmem
      rw [List.idxOf_append_of_mem hmem] at h
      omega
    | outer hnot' hy =>
      rw [List.idxOf_append_of_notMem hnot'] at h
      have := ih hy (Nat.lt_of_add_lt_add_left h)
      omega

namespace Env

theorem Built.names_eq (h : Built history env) : env.names = history.flatMap (·.1.names) := by
  induction h with
  | empty => rfl
  | extend _ hmatch hrun ih =>
    rw [Extension.run_extend] at hrun
    cases hrun
    rw [Extension.names_frame hmatch, ih, List.flatMap_cons]

theorem Built.matching (h : Built history env) (hfound : found ∈ history) :
    found.1.Matching := by
  induction h with
  | empty => cases hfound
  | extend _ hmatch _ ih =>
    obtain rfl | hfound := List.mem_cons.1 hfound
    · exact hmatch
    · exact ih hfound

theorem Built.lookup?_of_nearest (h : Built history env) (hx : Nearest x history k i found) :
    env.lookup? x = found.1.item? found.2 i := by
  induction h generalizing k with
  | empty => cases hx
  | extend _ hmatch hrun ih =>
    rw [Extension.run_extend] at hrun
    cases hrun
    cases hx with
    | here hi => exact Extension.lookup?_frame_of_idxOf? hmatch hi _ _
    | outer hnot hx => rw [Extension.lookup?_frame_of_notMem hnot, ih hx]

theorem lookup?_eq_none_iff (x : String) : (env : Env) → (env.lookup? x = none ↔ x ∉ env.names)
  | empty => by simp [names]
  | bind _ bindings _ outer => by
    rw [lookup?, names, List.mem_append, not_or, ← lookup_eq_none_iff_notMem,
      ← lookup?_eq_none_iff x outer]
    cases bindings.lookup x <;> simp
  | bindRec _ procs outer => by
    rw [lookup?, names, List.mem_append, not_or, ← lookup_eq_none_iff_notMem,
      ← lookup?_eq_none_iff x outer]
    cases procs.lookup x <;> simp

theorem mem_boundNames_iff : x ∈ env.boundNames ↔ ∃ d, env.lookup? x = some d := by
  rw [boundNames, List.mem_eraseDups, ← Option.ne_none_iff_exists', Ne, lookup?_eq_none_iff,
    Decidable.not_not]

theorem nodup_boundNames (env : Env) : env.boundNames.Nodup := by
  refine (pairwise_idxOf_eraseDups env.names).imp fun h heq => ?_
  rw [heq] at h
  exact Nat.lt_irrefl _ h

theorem Built.pairwise_boundNames (h : Built history env) :
    env.boundNames.Pairwise (BoundBefore history) := by
  have hnearest {z : String} (hz : z ∈ env.boundNames) :
      ∃ k i found, Nearest z history k i found := by
    rw [boundNames, List.mem_eraseDups, h.names_eq] at hz
    exact exists_nearest_iff.2 hz
  refine (pairwise_idxOf_eraseDups env.names).imp_of_mem fun hy hz hlt => ?_
  obtain ⟨k, i, found, hy⟩ := hnearest hy
  obtain ⟨l, j, found', hz⟩ := hnearest hz
  rw [h.names_eq] at hlt
  exact ⟨k, i, found, l, j, found', hy, hz, hy.lt_of_idxOf_lt hz hlt⟩

theorem Built.lookup?_eq_some_iff (h : Built history env) {d : Deferred} :
    env.lookup? x = some d ↔
      ∃ k i ext frame, Nearest x history k i (ext, frame) ∧ ext.item? frame i = some d := by
  constructor
  · intro hd
    have hx : x ∈ history.flatMap (·.1.names) := by
      rw [← h.names_eq, ← List.mem_eraseDups]
      exact mem_boundNames_iff.2 ⟨d, hd⟩
    obtain ⟨k, i, ⟨ext, frame⟩, hnearest⟩ := exists_nearest_iff.2 hx
    exact ⟨k, i, ext, frame, hnearest, h.lookup?_of_nearest hnearest ▸ hd⟩
  · rintro ⟨k, i, ext, frame, hnearest, hd⟩
    rw [h.lookup?_of_nearest hnearest, hd]

end Env

end

theorem run_eval_of_unbound {env : Env} {x : String} (h : env.lookup? x = none)
    {limit : Option Nat} {depth : Nat} (hdepth : checkDepth limit depth = .ok ()) (fuel : Nat)
    (m : Meter) : (eval limit (fuel + 1) depth (.var x) env).run m = some (.error (.unbound x), m)
    := by
  rw [eval, step, hdepth, h]
  rfl

/-- An environment is a map of names. A name is found just if it is listed, and a reference to any
other one fails. Every name is listed once, the nearer one first and in one frame the one farther
to the front. What is found stands beside the first position of the name in the innermost extension
that has it, and beside every name of an extension something stands. An extension without the name
makes no difference to what is found for it. -/
theorem environment_is_map {history : List (Extension × Env)} {env : Env}
    (h : env.Built history) (x : String) :
    ((∃ d, env.lookup? x = some d) ↔ x ∈ env.boundNames) ∧
      (x ∉ env.boundNames → ∀ limit depth fuel m, checkDepth limit depth = .ok () →
        (eval limit (fuel + 1) depth (.var x) env).run m = some (.error (.unbound x), m)) ∧
      env.boundNames.Nodup ∧ env.boundNames.Pairwise (BoundBefore history) ∧
      (∀ d, env.lookup? x = some d ↔
        ∃ k i ext frame, Nearest x history k i (ext, frame) ∧ ext.item? frame i = some d) ∧
      (∀ ext frame i, (ext, frame) ∈ history → ext.names.idxOf? x = some i →
        ∃ d, ext.item? frame i = some d) ∧
      ∀ ext : Extension, x ∉ ext.names → ∀ m, ∃ env' m',
        (ext.extend env).run m = some (.ok env', m') ∧ env'.lookup? x = env.lookup? x := by
  refine ⟨Env.mem_boundNames_iff.symm, fun hx limit depth fuel m hdepth => ?_,
    env.nodup_boundNames, h.pairwise_boundNames, fun d => h.lookup?_eq_some_iff,
    fun ext frame i hext hi => ?_, fun ext hx m => ?_⟩
  · have hnone : env.lookup? x = none := by
      rwa [Env.lookup?_eq_none_iff, ← List.mem_eraseDups]
    exact run_eval_of_unbound hnone hdepth fuel m
  · exact Extension.exists_item (h.matching hext) hi frame
  · exact ⟨_, _, Extension.run_extend ext env m, Extension.lookup?_frame_of_notMem hx _ env⟩

theorem environment_is_map_of_hidden_procedure :
    let f : Lambda := .mk [0] ["n"] [.app (.var "f") [.var "n"]]
    let g : Lambda := .mk [1] [] [.var "x"]
    let procs : Env := .bindRec 1 [("f", f), ("x", g)] .empty
    let env : Env := .bind 2 [("x", .num 1), ("z", .num 3), ("x", .num 2)] .empty procs
    env.boundNames = ["x", "z", "f"] ∧ env.boundNames.Nodup ∧
      env.lookup? "x" = some ⟨.num 1, .empty⟩ ∧ env.lookup? "f" = some ⟨.lambda f, procs⟩ ∧
      (eval none 1 0 (.var "y") env).run ⟨0, 2⟩ = some (.error (.unbound "y"), ⟨0, 2⟩) := by
  intro f g procs env
  have hprocs : Env.Built [(.recursive ["f", "x"] [f, g], procs)] procs :=
    .extend (m := ⟨0, 0⟩) .empty rfl rfl
  have henv : Env.Built [(.deferred ["x", "z", "x"] [.num 1, .num 3, .num 2] .empty, env),
      (.recursive ["f", "x"] [f, g], procs)] env :=
    .extend (m := ⟨0, 1⟩) hprocs rfl rfl
  have hx := environment_is_map henv "x"
  have hf := environment_is_map henv "f"
  have hy := environment_is_map henv "y"
  refine ⟨rfl, hx.2.2.1, ?_, ?_, hy.2.1 (by decide) none 0 0 ⟨0, 2⟩ rfl⟩
  · exact (hx.2.2.2.2.1 _).2 ⟨0, 0, _, _, .here rfl, rfl⟩
  · exact (hf.2.2.2.2.1 _).2 ⟨1, 0, _, _, .outer (by decide) (.here rfl), rfl⟩

end CallByName
