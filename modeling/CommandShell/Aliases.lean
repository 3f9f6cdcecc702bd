import CommandShell.Line.Token
import Std.Data.HashMap

/-!
# Aliases

Names for stretches of a command line. The entries stand in the order in which the names were first
defined, and an index leads from a name to its slot, so that looking a name up does not search.

Before a segment of a line runs, the aliases in it are replaced word by word, from left to right. The
words of a replacement are looked at again from the first one on, in the same place, where each name
is replaced at most once. A segment may replace at most `resolutionLimit` words.

## Main definitions
* `Aliases`: the store, with `add`, `get?`, `toList` and `size`.
* `resolveWith`: replacement of words, for any rule that gives a word its replacement.
* `Aliases.resolve`: the aliases of a segment replaced.
-/

namespace CommandShell

/-- Names are found by a hash that mixes their characters in order. -/
instance hashableName : Hashable Text where
  hash name := name.foldl (fun h c => mixHash h c.val.toUInt64) 7

/-- Alias definitions in order of first definition, with an index by name. -/
structure Aliases where
  entries : Array (Text × Text)
  /-- The slot of `entries` that holds a name. -/
  slots : Std.HashMap Text Nat

namespace Aliases

/-- No definitions. -/
def empty : Aliases := ⟨#[], ∅⟩

/-- Defines a name, in its old place if it has one. -/
def add (aliases : Aliases) (name value : Text) : Aliases :=
  match aliases.slots[name]? with
  | some slot => { aliases with entries := aliases.entries.modify slot fun e => (e.1, value) }
  | none =>
    { entries := aliases.entries.push (name, value)
      slots := aliases.slots.insert name aliases.entries.size }

/-- The entry of a name. -/
def entry? (aliases : Aliases) (name : Text) : Option (Text × Text) := do
  aliases.entries[← aliases.slots[name]?]?

/-- The value of a name. -/
def get? (aliases : Aliases) (name : Text) : Option Text :=
  (aliases.entry? name).map Prod.snd

/-- The definitions, in order of first definition. -/
def toList (aliases : Aliases) : List (Text × Text) :=
  aliases.entries.toList

/-- The number of definitions. -/
def size (aliases : Aliases) : Nat :=
  aliases.entries.size

end Aliases

/-- The number of words that one segment may replace. -/
def resolutionLimit : Nat := 64

/-- Replaces at most `budget` of the words for which `replace?` has a replacement. The words in `seen`
have been replaced where the first word now stands, and are not replaced there again. -/
def resolveWith (replace? : Token → Option (List Token)) (budget : Nat) (seen : List Token)
    (words : List Token) : List Token :=
  match words with
  | [] => []
  | word :: rest =>
    match replace? word, budget with
    | some replacement, budget + 1 =>
      if word ∈ seen then word :: resolveWith replace? (budget + 1) [] rest
      else resolveWith replace? budget (word :: seen) (replacement ++ rest)
    | _, budget => word :: resolveWith replace? budget [] rest
termination_by (budget, words.length)

@[simp] theorem resolveWith_nil (replace? : Token → Option (List Token)) (budget : Nat)
    (seen : List Token) : resolveWith replace? budget seen [] = [] := by
  rw [resolveWith]

/-- A word without a replacement stays, and the next word is looked at afresh. -/
theorem resolveWith_cons_of_none {replace? : Token → Option (List Token)} {word : Token}
    (h : replace? word = none) (budget : Nat) (seen rest : List Token) :
    resolveWith replace? budget seen (word :: rest) =
      word :: resolveWith replace? budget [] rest := by
  rw [resolveWith]
  intro replacement smaller hsome
  exact absurd hsome (by simp [h])

/-- Words without replacements stay as they are. -/
theorem resolveWith_of_all_none {replace? : Token → Option (List Token)} {words : List Token}
    (h : ∀ word ∈ words, replace? word = none) (budget : Nat) (seen : List Token) :
    resolveWith replace? budget seen words = words := by
  induction words generalizing seen with
  | nil => exact resolveWith_nil replace? budget seen
  | cons word rest ih =>
    rw [resolveWith_cons_of_none (h word (by simp)), ih fun w hw => h w (by simp [hw])]

namespace Aliases

/-- The words that an alias stands for. -/
def replacement? (aliases : Aliases) (name : Token) : Option (List Token) :=
  (aliases.get? name).map tokens

/-- The first word of a segment that defines or shows aliases, and so is left as it is. -/
def definer : Token := "alias".toList

/-- A segment with its aliases replaced. -/
def resolve (aliases : Aliases) (segment : List Token) : List Token :=
  if segment.head? = some definer then segment
  else resolveWith aliases.replacement? resolutionLimit [] segment

@[simp] theorem toList_empty : empty.toList = [] := rfl

@[simp] theorem get?_empty (name : Text) : empty.get? name = none := by
  simp [get?, entry?, empty]

end Aliases

end CommandShell
