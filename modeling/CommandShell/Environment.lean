import CommandShell.Text.Utf8
import CommandShell.Text.Quoted

/-!
# Environments

The variables that the interpreter hands to the programs it starts: pairs of a name and a value, both
byte strings, in the order in which the names came in. A name stands at most once. Giving a name a
new value keeps its place; a name that is removed and set again goes to the end.

## Main definitions
* `Environment`, `Environment.ofList`
* `Environment.get?`, `getText?`, `getLossy?`: the value of a name, as bytes or as text.
* `Environment.set`, `Environment.unset`
* `Environment.listing`: the pieces that are written when the environment is listed.
-/

namespace CommandShell

/-- Variables in the order in which they came in. -/
structure Environment where
  entries : List (Bytes × Bytes)
  deriving DecidableEq

/-- A name that no variable can have: it is empty or holds a `=`. -/
structure InvalidName where
  name : Text

namespace InvalidName

/-- What is said about a name that no variable can have. -/
def message (e : InvalidName) : Text :=
  "Invalid variable name: ".toList ++ quoted e.name

end InvalidName

namespace Environment

/-- The environment without variables. -/
def empty : Environment := ⟨[]⟩

/-- The entries with a value given to a name, in its place or at the end. -/
def assign (name value : Bytes) : List (Bytes × Bytes) → List (Bytes × Bytes)
  | [] => [(name, value)]
  | entry :: rest =>
    if entry.1 = name then (name, value) :: rest else entry :: assign name value rest

/-- The environment with all the given entries, later values of a name replacing earlier ones. -/
def ofList (entries : List (Bytes × Bytes)) : Environment :=
  ⟨entries.foldl (fun table entry => assign entry.1 entry.2 table) []⟩

/-- The number of variables. -/
def size (env : Environment) : Nat :=
  env.entries.length

/-- The value that stands beside a name among the entries. -/
def lookup (name : Bytes) (table : List (Bytes × Bytes)) : Option Bytes :=
  (table.find? fun entry => entry.1 == name).map Prod.snd

/-- The value of a variable. -/
def getBytes? (env : Environment) (name : Bytes) : Option Bytes :=
  lookup name env.entries

/-- The value of a variable whose name is a text. -/
def get? (env : Environment) (name : Text) : Option Bytes :=
  env.getBytes? (Utf8.encode name)

/-- The value of a variable, if it is a text. -/
def getText? (env : Environment) (name : Text) : Option Text :=
  (env.get? name).bind Utf8.decode?

/-- The value of a variable, with U+FFFD for what is no text in it. -/
def getLossy? (env : Environment) (name : Text) : Option Text :=
  (env.get? name).map Utf8.decodeLossy

/-- The name can be given to a variable. -/
def isValidName (name : Text) : Bool :=
  !name.isEmpty && !name.contains '='

/-- The environment with a value given to a name. -/
def set (env : Environment) (name : Text) (value : Bytes) : Except InvalidName Environment :=
  if isValidName name then .ok ⟨assign (Utf8.encode name) value env.entries⟩
  else .error ⟨name⟩

/-- A variable of this name is there. -/
def contains (env : Environment) (name : Text) : Bool :=
  (env.get? name).isSome

/-- The environment without the variable of this name. -/
def unset (env : Environment) (name : Text) : Environment :=
  ⟨env.entries.eraseP fun entry => entry.1 == Utf8.encode name⟩

/-- The pieces of the listing: each entry as `NAME=VALUE` on a line. -/
def listing (env : Environment) : List Bytes :=
  env.entries.flatMap fun entry => [entry.1, Utf8.encode ['='], entry.2, Utf8.encode ['\n']]

@[simp] theorem entries_empty : empty.entries = [] := rfl

@[simp] theorem lookup_nil (name : Bytes) : lookup name [] = none := rfl

theorem lookup_cons (name : Bytes) (entry : Bytes × Bytes) (table : List (Bytes × Bytes)) :
    lookup name (entry :: table) = if entry.1 = name then some entry.2 else lookup name table := by
  by_cases h : entry.1 = name <;> simp [lookup, h]

/-- A name is found exactly when an entry has it. -/
theorem isSome_lookup_iff (name : Bytes) (table : List (Bytes × Bytes)) :
    (lookup name table).isSome ↔ name ∈ table.map Prod.fst := by
  induction table with
  | nil => simp
  | cons entry rest ih =>
    rw [lookup_cons]
    by_cases h : entry.1 = name
    · simp [h]
    · have hne : name ≠ entry.1 := fun h' => h h'.symm
      simp [h, hne, ih]

@[simp] theorem lookup_assign_self (name value : Bytes) (table : List (Bytes × Bytes)) :
    lookup name (assign name value table) = some value := by
  induction table with
  | nil => simp [assign, lookup_cons]
  | cons entry rest ih =>
    by_cases h : entry.1 = name <;> simp [assign, lookup_cons, h, ih]

theorem lookup_assign_of_ne {name other : Bytes} (h : other ≠ name) (value : Bytes)
    (table : List (Bytes × Bytes)) :
    lookup other (assign name value table) = lookup other table := by
  have hne : name ≠ other := fun h' => h h'.symm
  induction table with
  | nil => simp [assign, lookup_cons, hne]
  | cons entry rest ih =>
    by_cases he : entry.1 = name
    · simp [assign, he, lookup_cons, hne]
    · simp [assign, he, lookup_cons, ih]

end Environment

end CommandShell
