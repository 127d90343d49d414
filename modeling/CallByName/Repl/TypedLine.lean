import CallByName.Text.Cluster.Basic
import CallByName.Text.Utf8

/-! Lines as they are typed: a backspace takes back the cluster before it, and a carriage return at
the end belongs to the end of the line. -/

namespace CallByName

open Text (clusters dropBytes utf8Length)

/-- A line while it is typed: its characters, the last one first, and the lengths of the clusters
that a backspace can still take back, each held in one byte. -/
structure Draft where
  typed : List Char
  lengths : List UInt8

namespace Draft

def add (d : Draft) (cluster : List Char) : Draft :=
  ⟨cluster.reverse ++ d.typed, (utf8Length cluster).toUInt8 :: d.lengths⟩

/-- Takes back the last cluster; of one with more than 255 bytes, as many bytes from its end as its
length has beyond a multiple of 256. -/
def erase (d : Draft) : Draft :=
  match d.lengths with
  | [] => d
  | n :: lengths => ⟨dropBytes n.toNat d.typed, lengths⟩

def take (d : Draft) (cluster : List Char) : Draft :=
  if cluster = ['\x08'] then d.erase else d.add cluster

theorem erase_add (d : Draft) {cluster : List Char} (h : utf8Length cluster < 256) :
    (d.add cluster).erase = d := by
  have hn : (utf8Length cluster).toUInt8.toNat = utf8Length cluster := by
    simpa using Nat.mod_eq_of_lt h
  simp only [add, erase, hn]
  rw [← Text.utf8Length_reverse, Text.dropBytes_utf8Length_append]

theorem typed_foldl_take (gs : List (List Char)) (d : Draft) (h : ['\x08'] ∉ gs) :
    (gs.foldl take d).typed = gs.flatten.reverse ++ d.typed := by
  induction gs generalizing d with
  | nil => simp
  | cons g gs ih =>
    simp only [List.mem_cons, not_or] at h
    simp [ih _ h.2, take, Ne.symm h.1, add]

end Draft

namespace TypedLine

def kept (cs : List Char) : String :=
  String.ofList ((clusters cs).foldl Draft.take ⟨[], []⟩).typed.reverse

def ofChars (cs : List Char) : String :=
  kept (if cs.getLast? = some '\r' then cs.dropLast else cs)

def ofInput (input : String) : List String :=
  let r := input.toList.foldl
    (fun (r : List String × List Char) c =>
      if c = '\n' then (ofChars r.2.reverse :: r.1, []) else (r.1, c :: r.2)) ([], [])
  (if r.2.isEmpty then r.1 else kept r.2.reverse :: r.1).reverse

theorem kept_of_notMem {cs : List Char} (h : '\x08' ∉ cs) : kept cs = String.ofList cs := by
  have hg : ['\x08'] ∉ clusters cs := fun hm =>
    h (Text.flatten_clusters cs ▸ List.mem_flatten_of_mem hm (List.mem_singleton_self _))
  simp [kept, Draft.typed_foldl_take _ _ hg, Text.flatten_clusters]

end TypedLine

end CallByName
