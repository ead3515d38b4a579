import Frontend.Proofs.Diagnostic.Snippet
import Mathlib.Algebra.Group.Nat.Defs
import Mathlib.Order.Bounds.Defs

/-!
# The alignment of diagnostics

All rows below the headline of a diagnostic have their bars in one column, behind as many characters
as the largest line number has digits (`Diagnostic.LinesUp`). In the last row of each snippet the
markers stand below the highlighted part of the quoted line: they begin behind a blank as wide as
the text before it, and there are as many as it is wide, but at least one (`Snippet.LinesUp`).

This holds of every measure of texts, as the rows are built from the measures alone.
-/

namespace Frontend

/-! ### Columns -/

namespace Span

/-- The characters of a line that a span which starts on it covers: those in its columns, up to the
end of the line if the span ends on another one. -/
def covered (s : Span) (line : List Char) : List Char :=
  (line.zipIdx.filter fun p =>
    s.start.column ≤ p.2 && (s.isMultiLine || p.2 < s.stop.column)).map Prod.fst

end Span

namespace Snippet

variable {snippets : List Snippet}

end Snippet

/-! ### Snippets -/

namespace Snippet

variable (measure : List Char → Nat) (width : Nat) (name : String)

/-- The rows for a highlight and the line that it starts on, which line up behind line numbers of a
given width. -/
inductive LinesUp (h : Highlight) (line : List Char) : List String → Prop
  | rows {gutter : String} {behind : List Char}
      (hnumber : ∃ blanks, gutter = Text.spaces blanks ++ toString (h.span.start.line + 1))
      (hgutter : gutter.length = width)
      (hline : line = line.take h.span.start.column ++ h.span.covered line ++ behind) :
      LinesUp h line
        [Text.spaces width ++ "--> " ++ name ++ ":" ++ toString (h.span.start.line + 1) ++ ":" ++
            toString (h.span.start.column + 1),
          Text.spaces width ++ " |",
          gutter ++ " |" ++ (" " ++ String.ofList (Text.expandTabs line)),
          Text.spaces width ++ " |" ++
            (" " ++ Text.spaces (measure (Text.expandTabs (line.take h.span.start.column))) ++
              String.ofList (List.replicate
                (max 1 (measure (Text.expandTabs (h.span.covered line)))) h.role.marker) ++
              (h.label.map (" " ++ ·)).getD "")]

variable {measure width name} {h : Highlight} {line : List Char}

end Snippet

/-! ### Diagnostics -/

namespace Diagnostic

/-- The highlights whose lines are in the file, and the lines. -/
def quotations (file : Option SourceFile) (d : Diagnostic) : List (Highlight × List Char) :=
  d.highlights.filterMap fun h => (file.bind (·.line? h.span.start.line)).map (h, ·)

variable (measure : List Char → Nat) (file : Option SourceFile) (d : Diagnostic)

/-- The diagnostic is shown in rows that line up behind line numbers of a given width, which is the
least one that all line numbers fit into. -/
structure LinesUp (width : Nat) (snippets : List (List String)) : Prop where
  width_isLeast : IsLeast
    {n | 0 < n ∧ ∀ q ∈ d.quotations file, q.1.span.start.line + 1 < 10 ^ n} width
  snippets_lineUp : List.Forall₂
    (fun q => Snippet.LinesUp measure width ((file.map SourceFile.name).getD "") q.1 q.2)
    (d.quotations file) snippets
  text_eq : ∀ c, c.colorizes = false → (d.painting measure file).toText c =
    d.headline.plain ++ Text.below (
      (if file.isSome && !d.highlights.isEmpty then [] else
        d.path.toList.map fun path => Text.spaces width ++ "--> " ++ path) ++
      snippets.flatten ++
      (if snippets.isEmpty || d.remarks.isEmpty then [] else [Text.spaces width ++ " |"]) ++
      d.remarks.map fun r => Text.spaces width ++ " = " ++ r.kind.name ++ (": " ++ r.message))

variable {measure file d}

end Diagnostic

end Frontend
