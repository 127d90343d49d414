import CallByName.Text.Cluster.Role

/-! Clusters: what a reader takes for one character, such as a letter with its marks, a syllable of
Hangul, a flag or a joined emoji. A text is cut into extended grapheme clusters from left to right,
and whether a character continues a cluster is decided by the cluster alone. -/

namespace CallByName.Text.Cluster

def isMarkOnConsonant (c : Char) : Bool :=
  (role c == .mark && c.toNat != 0x200c) || role c == .joiner

def endsLinked (cluster : List Char) : Bool :=
  (cluster.takeWhile isMarkOnConsonant).any (linkers.contains ·.toNat) &&
    (cluster.dropWhile isMarkOnConsonant).head?.map role == some .consonant

def endsPictured (cluster : List Char) : Bool :=
  (cluster.dropWhile (role · == .mark)).head?.map role == some .pictograph

def endsUnpaired (cluster : List Char) : Bool :=
  (cluster.takeWhile (role · == .regional)).length % 2 == 1

def continues : List Char → Char → Bool
  | [], _ => true
  | p :: before, c =>
    let last := role p
    let next := role c
    if last.standsAlone || next.standsAlone then last == .carriageReturn && next == .newline
    else next == .mark || next == .joiner || next == .spacingMark || last == .leadingSign ||
      last.inSyllable.contains next ||
      (next == .consonant && endsLinked (p :: before)) ||
      (next == .pictograph && last == .joiner && endsPictured before) ||
      (next == .regional && endsUnpaired (p :: before))

/-- Takes one more character into the clusters, the last one first and each last character first. -/
def extend : List (List Char) → Char → List (List Char)
  | [], c => [[c]]
  | g :: gs, c => if continues g c then (c :: g) :: gs else [c] :: g :: gs

theorem flatten_reverse_extend (gs : List (List Char)) (c : Char) :
    ((extend gs c).map List.reverse).reverse.flatten =
      (gs.map List.reverse).reverse.flatten ++ [c] := by
  cases gs with
  | nil => simp [extend]
  | cons g gs =>
    rw [extend]
    split <;> simp

theorem flatten_reverse_foldl_extend (cs : List Char) (gs : List (List Char)) :
    ((cs.foldl extend gs).map List.reverse).reverse.flatten =
      (gs.map List.reverse).reverse.flatten ++ cs := by
  induction cs generalizing gs with
  | nil => simp
  | cons c cs ih => simp [ih, flatten_reverse_extend]

end Cluster

def clusters (cs : List Char) : List (List Char) :=
  ((cs.foldl Cluster.extend []).map List.reverse).reverse

theorem flatten_clusters (cs : List Char) : (clusters cs).flatten = cs := by
  simpa [clusters] using Cluster.flatten_reverse_foldl_extend cs []

end CallByName.Text
