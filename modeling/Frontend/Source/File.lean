import Frontend.Text.Split

/-!
# Source files

A source file is a text with an optional name. Its lines are separated by line feeds; a carriage
return at the end of a line is not part of it.
-/

namespace Frontend

/-- A text and the path it was read from, if it has one. -/
structure SourceFile where
  path : Option String
  content : String
deriving DecidableEq, Repr

namespace SourceFile

/-- The name under which the file is shown. -/
def name (f : SourceFile) : String := f.path.getD "<anonymous>"

/-- The number of bytes of the content. -/
def size (f : SourceFile) : Nat := f.content.utf8ByteSize

/-- The line of a given number, counted from zero, without its line break. -/
def line? (f : SourceFile) (n : Nat) : Option (List Char) :=
  (Text.splitChar '\n' f.content.toList)[n]?.map Text.trimReturn

end SourceFile

end Frontend
