import CommandShell.Text.Cluster

/-!
# Typed text

What a user types may hold backspaces, each of which takes back the cluster before it. The size of a
cluster is kept in one byte; of a larger cluster only the size modulo 256 is taken back.

## Main definitions
* `Typed`, `Typed.add`: what is kept of the clusters typed so far.
* `takeBack`: a typed text after its backspaces.
-/

namespace CommandShell

/-- The character that takes back the cluster before it. -/
def backspace : Char := '\x08'

/-- The number of bytes of a text. -/
def byteSize (text : Text) : Nat :=
  text.foldl (fun size c => size + c.utf8Size) 0

/-- A text without the first characters that make up a number of bytes. -/
def dropBytes : Nat → Text → Text
  | _, [] => []
  | size, c :: rest => if size = 0 then c :: rest else dropBytes (size - c.utf8Size) rest

/-- One more than the largest size of a cluster that is kept. -/
def clusterSizes : Nat := 256

/-- What is kept of a text while it is typed. -/
structure Typed where
  /-- The characters, the last of them first. -/
  kept : Text
  /-- The sizes of the clusters that can be taken back, the last of them first. -/
  sizes : List Nat

namespace Typed

/-- One more cluster. -/
def add (typed : Typed) (cluster : Text) : Typed :=
  if cluster = [backspace] then
    match typed.sizes with
    | [] => typed
    | size :: sizes => ⟨dropBytes size typed.kept, sizes⟩
  else ⟨cluster.reverse ++ typed.kept, byteSize cluster % clusterSizes :: typed.sizes⟩

end Typed

/-- A typed text after its backspaces. -/
def takeBack (typed : Text) : Text :=
  ((clusters typed).foldl Typed.add ⟨[], []⟩).kept.reverse

/-- Clusters without a backspace are kept as they are typed. -/
theorem kept_foldl_add {typed : List Text} (h : ∀ cluster ∈ typed, cluster ≠ [backspace])
    (t : Typed) : (typed.foldl Typed.add t).kept = typed.flatten.reverse ++ t.kept := by
  induction typed generalizing t with
  | nil => simp
  | cons cluster rest ih =>
    rw [List.foldl_cons, ih fun c hc => h c (by simp [hc])]
    simp [Typed.add, h cluster (by simp)]

/-- A text without a backspace is taken as it is typed. -/
theorem takeBack_of_not_mem {typed : Text} (h : backspace ∉ typed) : takeBack typed = typed := by
  have hne : ∀ cluster ∈ clusters typed, cluster ≠ [backspace] := by
    intro cluster hcluster heq
    apply h
    rw [← flatten_clusters typed]
    exact List.mem_flatten.2 ⟨cluster, hcluster, by simp [heq]⟩
  simp [takeBack, kept_foldl_add hne]

end CommandShell
