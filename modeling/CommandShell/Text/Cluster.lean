import CommandShell.Text.Cluster.Kind

/-!
# Clusters

A cluster is what the reader of a text takes for one character: a letter with its marks, a syllable, a
flag, a pictograph made of several. A text is cut into clusters from left to right; whether it is cut
before a character depends on its kind and on what the cluster before it ends in.

## Main definitions
* `ClusterEnd`, `ClusterEnd.joins`: what a cluster ends in, and what goes on with it.
* `clusters`: a text cut into clusters; nothing is lost (`flatten_clusters`).
-/

namespace CommandShell

/-- What a cluster ends in. -/
structure ClusterEnd where
  /-- The kind of its last character. -/
  last : ClusterKind
  /-- It ends in a pictograph with nothing but marks behind it. -/
  isPicture : Bool
  /-- It ends in such a pictograph and a joiner. -/
  joinsPicture : Bool
  /-- It ends in a consonant with nothing but marks behind it; and a linker is among them. -/
  consonant : Option Bool
  /-- It ends in the first half of a flag. -/
  isHalfFlag : Bool
  deriving DecidableEq

namespace ClusterEnd

/-- The end of a cluster of one character. -/
def ofKind (kind : ClusterKind) : ClusterEnd :=
  { last := kind
    isPicture := kind = .pictograph
    joinsPicture := false
    consonant := if kind = .consonant then some false else none
    isHalfFlag := kind = .regional }

/-- The end of a cluster after one more character. -/
def add (e : ClusterEnd) (kind : ClusterKind) : ClusterEnd :=
  match kind with
  | .extending => { e with last := kind, joinsPicture := false, isHalfFlag := false }
  | .linker =>
    { e with
      last := kind, joinsPicture := false, isHalfFlag := false
      consonant := e.consonant.map fun _ => true }
  | .nonJoiner =>
    { e with last := kind, joinsPicture := false, isHalfFlag := false, consonant := none }
  | .joiner =>
    { e with last := kind, joinsPicture := e.isPicture, isPicture := false, isHalfFlag := false }
  | .regional => { ofKind kind with isHalfFlag := !e.isHalfFlag }
  | kind => ofKind kind

/-- A cluster goes on with a character. -/
def joins (e : ClusterEnd) (kind : ClusterKind) : Bool :=
  match e.last, kind with
  | .carriageReturn, .lineFeed => true
  | .carriageReturn, _ | .lineFeed, _ | .control, _ => false
  | _, .carriageReturn | _, .lineFeed | _, .control => false
  | _, .extending | _, .linker | _, .nonJoiner | _, .joiner | _, .spacing => true
  | .prepended, _ => true
  | .leading, .leading | .leading, .vowel | .leading, .openSyllable | .leading, .closedSyllable
  | .openSyllable, .vowel | .openSyllable, .trailing | .vowel, .vowel | .vowel, .trailing
  | .closedSyllable, .trailing | .trailing, .trailing => true
  | _, .consonant => e.consonant == some true
  | _, .pictograph => e.joinsPicture
  | _, .regional => e.isHalfFlag
  | _, _ => false

end ClusterEnd

/-- The clusters of a text behind the beginning of one, which is given with its last character
first. -/
def clustersFrom (e : ClusterEnd) (begun : Text) : Text → List Text
  | [] => [begun.reverse]
  | c :: rest =>
    let kind := clusterKind c
    if e.joins kind then clustersFrom (e.add kind) (c :: begun) rest
    else begun.reverse :: clustersFrom (.ofKind kind) [c] rest

/-- A text cut into clusters. -/
def clusters : Text → List Text
  | [] => []
  | c :: rest => clustersFrom (.ofKind (clusterKind c)) [c] rest

theorem flatten_clustersFrom (e : ClusterEnd) (begun rest : Text) :
    (clustersFrom e begun rest).flatten = begun.reverse ++ rest := by
  induction rest generalizing e begun with
  | nil => simp [clustersFrom]
  | cons c rest ih =>
    rw [clustersFrom]
    split
    · simp [ih]
    · simp [ih]

/-- Nothing is lost: the clusters one behind the other are the text. -/
@[simp] theorem flatten_clusters (text : Text) : (clusters text).flatten = text := by
  cases text with
  | nil => rfl
  | cons c rest => simp [clusters, flatten_clustersFrom]

end CommandShell
