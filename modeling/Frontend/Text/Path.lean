import Frontend.Text.Split

/-!
# Paths

Two paths are compared part by part. Repeated separators and single dots within a path have no
part of their own.
-/

namespace Frontend

/-- A part of a path. -/
inductive PathComponent where
  /-- The separator at the start of a path. -/
  | root
  /-- The single dot at the start of a path. -/
  | current
  | parent
  | named (name : String)
deriving DecidableEq, Repr

namespace PathComponent

/-- The place of the kind of a part among the kinds. -/
def rank : PathComponent → Nat
  | root    => 0
  | current => 1
  | parent  => 2
  | named _ => 3

/-- The name of a part that has one. -/
def name : PathComponent → String
  | named n => n
  | _       => ""

/-- Parts are ordered by kind, then by name. -/
instance : Ord PathComponent where
  compare := compareLex (compareOn rank) (compareOn name)

instance : Std.TransOrd PathComponent :=
  inferInstanceAs (Std.TransCmp (compareLex (compareOn rank) (compareOn name)))

end PathComponent

namespace Path

/-- The part that a text between separators stands for, if it stands for any. -/
def component? (piece : List Char) : Option PathComponent :=
  if piece = [] ∨ piece = ['.'] then none
  else if piece = ['.', '.'] then some .parent
  else some (.named (String.ofList piece))

/-- The parts of a path. -/
def components (path : String) : List PathComponent :=
  let pieces := Text.splitChar '/' path.toList
  let first : List PathComponent :=
    if path.toList.head? = some '/' then [.root]
    else if pieces.head? = some ['.'] then [.current]
    else []
  first ++ pieces.filterMap component?

end Path

end Frontend
