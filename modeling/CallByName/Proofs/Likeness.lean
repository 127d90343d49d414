import CallByName.Prim.Apply
import Mathlib.Data.List.Forall2

/-! Values that are alike up to their closures. Which closures count as alike is left open. Alike
values print the same, and operators turn alike operands into alike results or the same error;
only `equal?` looks at the identity of a closure, so it has to be the same on both sides or the
operator ruled out. -/

namespace CallByName

open List (Forall₂)

inductive Value.Like (C : Lambda → Env → Lambda → Env → Prop) (ops : Prim → Prop) :
    Value → Value → Prop
  | num (n : Number) : Like C ops (num n) (num n)
  | bool (b : Bool) : Like C ops (bool b) (bool b)
  | str (s : String) : Like C ops (str s) (str s)
  | sym (x : String) : Like C ops (sym x) (sym x)
  | nil : Like C ops nil nil
  | pair {a d a' d' : Value} (car : Like C ops a a') (cdr : Like C ops d d') :
    Like C ops (pair a d) (pair a' d')
  | prim {op : Prim} (h : ops op) : Like C ops (prim op) (prim op)
  | closure {p q : Lambda} {ε δ : Env} (h : C p ε q δ) : Like C ops (closure p ε) (closure q δ)

inductive ResultLike {ε ε' α β : Type} (E : ε → ε' → Prop) (R : α → β → Prop) :
    Except ε α → Except ε' β → Prop
  | error {e : ε} {e' : ε'} (h : E e e') : ResultLike E R (.error e) (.error e')
  | ok {a : α} {b : β} (h : R a b) : ResultLike E R (.ok a) (.ok b)

theorem ResultLike.imp {ε ε' α β : Type} {E F : ε → ε' → Prop} {R Q : α → β → Prop}
    {x : Except ε α} {y : Except ε' β} (h : ResultLike E R x y) (hE : ∀ e e', E e e' → F e e')
    (hR : ∀ a b, R a b → Q a b) : ResultLike F Q x y := by
  cases h with
  | error h => exact .error (hE _ _ h)
  | ok h => exact .ok (hR _ _ h)

theorem ResultLike.flip {ε ε' α β : Type} {E : ε → ε' → Prop} {R : α → β → Prop}
    {x : Except ε α} {y : Except ε' β} (h : ResultLike E R x y) :
    ResultLike (fun e e' => E e' e) (fun a b => R b a) y x := by
  cases h with
  | error h => exact .error h
  | ok h => exact .ok h

theorem ResultLike.bind {ε ε' α β γ δ : Type} {E : ε → ε' → Prop} {R : α → β → Prop}
    {Q : γ → δ → Prop} {x : Except ε α} {y : Except ε' β} {f : α → Except ε γ}
    {g : β → Except ε' δ} (h : ResultLike E R x y)
    (hf : ∀ a b, R a b → ResultLike E Q (f a) (g b)) : ResultLike E Q (x >>= f) (y >>= g) := by
  cases h with
  | error h => exact .error h
  | ok h => exact hf _ _ h

namespace Value

def closures : Value → List (Lambda × Env)
  | pair a d => a.closures ++ d.closures
  | closure p ε => [(p, ε)]
  | _ => []

def operators : Value → List Prim
  | pair a d => a.operators ++ d.operators
  | prim op => [op]
  | _ => []

namespace Like

variable {C : Lambda → Env → Lambda → Env → Prop} {ops : Prim → Prop} {v w v' w' : Value}

theorem refl_of (v : Value) (hC : ∀ c ∈ v.closures, C c.1 c.2 c.1 c.2)
    (hops : ∀ op ∈ v.operators, ops op) : Like C ops v v := by
  cases v with
  | num n => exact .num n
  | bool b => exact .bool b
  | str s => exact .str s
  | sym x => exact .sym x
  | nil => exact .nil
  | pair a d =>
    exact .pair
      (refl_of a (fun c hc => hC c (List.mem_append_left _ hc))
        fun op hop => hops op (List.mem_append_left _ hop))
      (refl_of d (fun c hc => hC c (List.mem_append_right _ hc))
        fun op hop => hops op (List.mem_append_right _ hop))
  | prim op => exact .prim (hops op (List.mem_singleton_self op))
  | closure p ε => exact .closure (hC (p, ε) (List.mem_singleton_self _))

theorem flip (h : Like C ops v w) : Like (fun p ε q δ => C q δ p ε) ops w v := by
  induction h with
  | num n => exact .num n
  | bool b => exact .bool b
  | str s => exact .str s
  | sym x => exact .sym x
  | nil => exact .nil
  | pair _ _ iha ihd => exact .pair iha ihd
  | prim h => exact .prim h
  | closure h => exact .closure h

theorem eq_of (hC : ∀ p ε q δ, C p ε q δ → p = q ∧ ε = δ) (h : Like C ops v w) : v = w := by
  induction h with
  | pair _ _ iha ihd => rw [iha, ihd]
  | closure h =>
    obtain ⟨rfl, rfl⟩ := hC _ _ _ _ h
    rfl
  | _ => rfl

theorem isTrue_eq (h : Like C ops v w) : v.isTrue = w.isTrue := by cases h <;> rfl

theorem isSameAtom_eq (h : Like C ops v w) (h' : Like C ops v' w') :
    v.isSameAtom v' = w.isSameAtom w' := by
  cases h <;> cases h' <;> rfl

theorem isList_eq (h : Like C ops v w) : v.isList = w.isList := by
  induction h with
  | pair _ _ _ ihd => simpa [isList, toList?] using ihd
  | _ => rfl

theorem asNumber_eq (h : Like C ops v w) : v.asNumber = w.asNumber := by cases h <;> rfl

theorem asBoolean_eq (h : Like C ops v w) : v.asBoolean = w.asBoolean := by cases h <;> rfl

theorem asString_eq (h : Like C ops v w) : v.asString = w.asString := by cases h <;> rfl

theorem texts_eq (hC : ∀ p ε q δ, C p ε q δ → p.params = q.params) (h : Like C ops v w) :
    v.text = w.text ∧ v.tailText = w.tailText := by
  induction h with
  | pair _ _ iha ihd => simp [text, tailText, iha.1, ihd.2]
  | closure h => simp [text, tailText, atomText, hC _ _ _ _ h]
  | _ => exact ⟨rfl, rfl⟩

theorem beq_eq
    (hC : ∀ p ε q δ p' ε' q' δ', C p ε q δ → C p' ε' q' δ' →
      (Value.closure p ε).beq (.closure p' ε') = (Value.closure q δ).beq (.closure q' δ'))
    (h : Like C ops v w) (h' : Like C ops v' w') : v.beq v' = w.beq w' := by
  induction h generalizing v' w' with
  | pair _ _ iha ihd =>
    cases h' with
    | pair ha hd => simp only [Value.beq, iha ha, ihd hd]
    | _ => rfl
  | closure h =>
    cases h' with
    | closure h' => exact hC _ _ _ _ _ _ _ _ h h'
    | _ => rfl
  | _ => cases h' <;> rfl

theorem ofList {vs ws : List Value} (h : Forall₂ (Like C ops) vs ws) :
    Like C ops (ofList vs) (ofList ws) := by
  induction h with
  | nil => exact .nil
  | cons h _ ih => exact .pair h ih

end Like

end Value

end CallByName
