/-
This file holds the values of a flag that may be given more than once. Every occurrence counts:
the order of the values is the order in which they were written, and a value that was written
twice is there twice.
-/

namespace ThriftCommand

/-- The values of a repeatable flag, in the order of the command line. -/
structure Occurrences where
  toList : List String := []
  deriving DecidableEq, Repr

namespace Occurrences

/-- One more occurrence, after all the others. -/
def add (occurrences : Occurrences) (value : String) : Occurrences :=
  { toList := occurrences.toList ++ [value] }

/-- The occurrences of `values`, added one after the other. -/
def ofList (values : List String) : Occurrences :=
  values.foldl add {}

/-- The occurrences of one list, then those of another. -/
def addAll (occurrences others : Occurrences) : Occurrences :=
  others.toList.foldl add occurrences

/-- The occurrence at a position, counted from zero. -/
def get? (occurrences : Occurrences) (position : Nat) : Option String :=
  occurrences.toList[position]?

/-- The value was given at least once. -/
def contains (occurrences : Occurrences) (value : String) : Bool :=
  occurrences.toList.contains value

/-- The first occurrence. -/
def first? (occurrences : Occurrences) : Option String :=
  occurrences.toList.head?

/-- The last occurrence. -/
def last? (occurrences : Occurrences) : Option String :=
  occurrences.toList.getLast?

/-- The occurrences from the last to the first. -/
def reversed (occurrences : Occurrences) : Occurrences :=
  ofList occurrences.toList.reverse

/-- How many times the flag was given. -/
def size (occurrences : Occurrences) : Nat :=
  occurrences.toList.length

/-- The values in brackets, a space between each two. It serves a reader and is never read back. -/
def render (occurrences : Occurrences) : String :=
  "[" ++ " ".intercalate occurrences.toList ++ "]"

/-- Adding one after the other keeps every value in its place. -/
theorem toList_foldl_add (values : List String) (occurrences : Occurrences) :
    (values.foldl add occurrences).toList = occurrences.toList ++ values := by
  induction values generalizing occurrences with
  | nil => simp
  | cons value rest inductionHypothesis => simp [inductionHypothesis, add]

theorem toList_ofList (values : List String) : (ofList values).toList = values := by
  simp [ofList, toList_foldl_add]

end Occurrences

end ThriftCommand
