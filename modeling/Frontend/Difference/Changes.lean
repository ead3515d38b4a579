import Frontend.Difference.Subsequence
import Frontend.Paint.Painter

/-!
# Changes between texts

The difference of two texts is a sequence of changes. Both texts are split into pieces at a
separator; pieces that both have in common are kept, and the others are removed or added. The
changes are painted line by line, each line behind a mark.
-/

namespace Frontend

namespace Difference

/-- A change of neighbouring pieces, joined again. -/
inductive Change where
  | same (text : List Char)
  | added (text : List Char)
  | removed (text : List Char)
deriving DecidableEq, Repr

/-! ### Pieces -/

/-- The pieces of a text that are compared: those between separators, or the single characters if
the separator is empty. -/
def comparedPieces (separator : List Char) (text : List Char) : List (List Char) :=
  match separator with
  | []            => text.map ([·])
  | first :: rest => Text.splitText first rest text

/-- The pieces of a text that changes are made of. An empty text has none. With an empty separator
there is an empty piece before the first and behind the last character. -/
def changedPieces (separator : List Char) (text : List Char) : List (List Char) :=
  if text.isEmpty then []
  else match separator with
    | []            => [[]] ++ text.map ([·]) ++ [[]]
    | first :: rest => Text.splitText first rest text

/-- Pieces with separators between them. -/
def join (separator : List Char) (pieces : List (List Char)) : List Char :=
  separator.intercalate pieces

/-! ### Changes -/

/-- The pieces that three lists begin with, and the rests of the lists behind them. -/
def takeSame (old new kept : List (List Char)) :
    List (List Char) × List (List Char) × List (List Char) × List (List Char) :=
  match old, new, kept with
  | o :: os, n :: ns, k :: ks =>
    if o = k ∧ n = k then
      let (same, rests) := takeSame os ns ks
      (o :: same, rests)
    else ([], old, new, kept)
  | _, _, _                   => ([], old, new, kept)

/-- The pieces before the next one that is kept. -/
def takeOther (kept : List (List Char)) (pieces : List (List Char)) : List (List Char) :=
  match kept with
  | []     => pieces
  | k :: _ => pieces.takeWhile (· != k)

/-- The changes from old to new pieces with the pieces that both keep. They end where no piece can
be taken. -/
def changesWithin (separator : List Char) :
    Nat → (old new kept : List (List Char)) → List Change
  | 0, _, _, _              => []
  | fuel + 1, old, new, kept =>
    let (same, old, new, kept) := takeSame old new kept
    let removed := takeOther kept old
    let added := takeOther kept new
    let old := old.drop removed.length
    let new := new.drop added.length
    let joined := join separator same
    (if same.isEmpty || (separator.isEmpty && joined.isEmpty) then [] else [.same joined]) ++
      (if removed.isEmpty then [] else [.removed (join separator removed)]) ++
      (if added.isEmpty then [] else [.added (join separator added)]) ++
      (if old.isEmpty && new.isEmpty then [] else changesWithin separator fuel old new kept)

/-- The changes from one text to another. -/
def changes (separator old new : List Char) : List Change :=
  let kept := join separator
    (common (comparedPieces separator old) (comparedPieces separator new))
  let old := changedPieces separator old
  let new := changedPieces separator new
  changesWithin separator (old.length + new.length) old new (changedPieces separator kept)

/-! ### Painting -/

open Painting

/-- The lines of an added or removed text. An empty text is one empty line. -/
def shownLines (t : List Char) : List (List Char) := if t.isEmpty then [[]] else Text.lines t

/-- A line behind a mark, in a colour that the mark has as its background. -/
def markedLine (mark : String) (c : Color) (line : List Char) : Painting :=
  styledText (.ofBackground c) mark ++ styledText (.ofColor c) (" " ++ String.ofList line ++ "\n")

/-- The lines of a change. -/
def Change.painting : Change → Painting
  | .same t    => (Text.lines t).flatMap fun line => text ("  " ++ String.ofList line ++ "\n")
  | .added t   => (shownLines t).flatMap (markedLine "+" ⟨.green, false⟩)
  | .removed t => (shownLines t).flatMap (markedLine "-" ⟨.red, false⟩)

end Difference

/-- The difference of two texts, which are compared piece by piece between separators. -/
def difference (old new separator : String) (c : ColorChoice) : String :=
  Painting.toText
    ((Difference.changes separator.toList old.toList new.toList).flatMap
      Difference.Change.painting) c

end Frontend
