/-! Lengths in UTF-8. -/

namespace CallByName.Text

def utf8Length : List Char → Nat
  | [] => 0
  | c :: cs => c.utf8Size + utf8Length cs

def dropBytes : Nat → List Char → List Char
  | _, [] => []
  | n, c :: cs => if c.utf8Size ≤ n then dropBytes (n - c.utf8Size) cs else c :: cs

theorem dropBytes_zero (cs : List Char) : dropBytes 0 cs = cs := by
  cases cs with
  | nil => rfl
  | cons c cs => simp [dropBytes, Nat.not_le.2 c.utf8Size_pos]

@[simp] theorem utf8Length_append (as bs : List Char) :
    utf8Length (as ++ bs) = utf8Length as + utf8Length bs := by
  induction as with
  | nil => simp [utf8Length]
  | cons a as ih => simp [utf8Length, ih, Nat.add_assoc]

@[simp] theorem utf8Length_reverse (cs : List Char) : utf8Length cs.reverse = utf8Length cs := by
  induction cs with
  | nil => rfl
  | cons c cs ih => simp [utf8Length, ih, Nat.add_comm]

theorem utf8Length_pos_iff {cs : List Char} : 0 < utf8Length cs ↔ cs ≠ [] := by
  cases cs with
  | nil => exact iff_of_false (Nat.lt_irrefl 0) fun h => h rfl
  | cons c cs => exact iff_of_true (Nat.add_pos_left c.utf8Size_pos _) (List.cons_ne_nil c cs)

theorem length_le_utf8Length (cs : List Char) : cs.length ≤ utf8Length cs := by
  induction cs with
  | nil => exact Nat.le_refl 0
  | cons c cs ih =>
    have hc := c.utf8Size_pos
    rw [List.length_cons, utf8Length]
    omega

theorem utf8Length_eq_length_iff {cs : List Char} :
    utf8Length cs = cs.length ↔ ∀ c ∈ cs, c.utf8Size = 1 := by
  induction cs with
  | nil => exact iff_of_true rfl (List.forall_mem_nil _)
  | cons c cs ih =>
    have hc := c.utf8Size_pos
    have hle := length_le_utf8Length cs
    rw [List.forall_mem_cons, ← ih, List.length_cons, utf8Length]
    omega

theorem dropBytes_utf8Length_append (as bs : List Char) :
    dropBytes (utf8Length as) (as ++ bs) = bs := by
  induction as with
  | nil => exact dropBytes_zero bs
  | cons a as ih => simp [utf8Length, dropBytes, ih]

end CallByName.Text
