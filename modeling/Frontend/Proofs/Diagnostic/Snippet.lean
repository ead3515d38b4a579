import Frontend.Diagnostic.Snippet
import Frontend.Proofs.Paint.Plain
import Frontend.Proofs.Source.Line
import Mathlib.Data.List.Forall2

/-!
# The rows of diagnostics

Styles aside, a diagnostic is a text of rows: its headline, four rows for each snippet, and a row
for each remark. A highlight that starts in a line of the file has a snippet of that line
(`Snippet.Shows`), so that a diagnostic whose highlights do has a snippet for each of them.
-/

namespace Frontend

/-! ### Rows -/

/-- Rows that stand below another one. -/
def Text.below (rows : List String) : String := String.join (rows.map ("\n" ++ ·))

theorem Text.below_flatMap {α : Type} (f : α → List String) (as : List α) :
    below (as.flatMap f) = String.join (as.map fun a => below (f a)) := by
  induction as with
  | nil => rfl
  | cons a as ih =>
    rw [below] at ih
    simp [below, ih]

namespace Snippet

variable (padding : Nat) (name : String) (s : Snippet)

/-- The rows of a snippet: the place, a bar, the line, and the markers below it. -/
def rows : List String :=
  [Text.spaces padding ++ "--> " ++ name ++ ":" ++ toString s.number ++ ":" ++ toString s.column,
   Text.spaces padding ++ " |",
   Text.spaces (padding - (toString s.number).length) ++ toString s.number ++ " |" ++
     (" " ++ String.ofList (Text.expandTabs s.line)),
   Text.spaces padding ++ " |" ++ s.markers]

theorem plain_painting (main : Style) :
    (s.painting padding name main).plain = Text.below (s.rows padding name) := by
  simp [painting, location, bar, source, caret, rows, Text.below, String.append_assoc]

/-- The snippet of a highlight: it quotes the line that the highlight starts in, names the line and
the place in it, both counted from one, and has the markers below the highlighted text, up to the
end of the line at most. -/
structure Shows (file : SourceFile) (h : Highlight) (s : Snippet) : Prop where
  liesIn : file.LiesIn h.span.start s.line
  number_eq : s.number = h.span.start.line + 1
  column_eq : s.column = h.span.start.column + 1
  indent_eq : s.indent = Text.width (Text.expandTabs (s.line.take h.span.start.column))
  extent_eq : s.extent = Text.width (Text.expandTabs ((s.line.take
    (if h.span.isMultiLine then s.line.length else h.span.stop.column)).drop h.span.start.column))
  role_eq : s.role = h.role
  label_eq : s.label = h.label

theorem exists_shows {file : SourceFile} {h : Highlight} {line : List Char}
    (hline : file.LiesIn h.span.start line) :
    ∃ s, ofHighlight? Text.width file h = some s ∧ s.Shows file h := by
  rw [ofHighlight?, hline.line_eq]
  refine ⟨_, rfl, hline, rfl, rfl, rfl, ?_, rfl, rfl⟩
  rw [List.drop_take]

end Snippet

namespace Diagnostic

variable {d : Diagnostic} {file : SourceFile}

/-- The remarks, which a bar sets apart from the snippets above. -/
def footer (padding : Nat) (d : Diagnostic) : Painting :=
  (if d.remarks.isEmpty then [] else Snippet.bar padding) ++ d.remarks.flatMap (remarkRow padding)

/-- The diagnostic is shown with a snippet for each of its highlights, in their order: the rows of
the snippets stand between the headline and the remarks. -/
structure ShownWith (file : SourceFile) (snippets : List Snippet) (padding : Nat)
    (d : Diagnostic) : Prop where
  snippets_show : List.Forall₂ (Snippet.Shows file) d.highlights snippets
  format_eq : ∀ c, d.format file c =
    (d.headline ++ snippets.flatMap (Snippet.painting padding file.name d.severity.style) ++
      d.footer padding).toText c
  text_eq : ∀ c, c.colorizes = false → d.format file c =
    d.headline.plain ++ Text.below (snippets.flatMap (Snippet.rows padding file.name)) ++
      (d.footer padding).plain

theorem snippets_show (hlies : ∀ h ∈ d.highlights, ∃ line, file.LiesIn h.span.start line) :
    List.Forall₂ (Snippet.Shows file) d.highlights (d.snippets Text.width file) := by
  rw [snippets]
  generalize d.highlights = highlights at hlies ⊢
  induction highlights with
  | nil => exact .nil
  | cons h highlights ih =>
    obtain ⟨line, hline⟩ := hlies h List.mem_cons_self
    obtain ⟨s, hs, hshows⟩ := Snippet.exists_shows hline
    rw [List.filterMap_cons_some hs]
    exact .cons hshows (ih fun g hg => hlies g (List.mem_cons_of_mem h hg))

theorem exists_shownWith (hpath : d.path = none) (hhighlights : d.highlights ≠ [])
    (hlies : ∀ h ∈ d.highlights, ∃ line, file.LiesIn h.span.start line) :
    ∃ snippets padding, d.ShownWith file snippets padding := by
  have hshow := snippets_show hlies
  have hsnippets : (d.snippets Text.width file).isEmpty = false := by
    rw [List.isEmpty_eq_false_iff]
    intro hnil
    rw [hnil, List.forall₂_nil_right_iff] at hshow
    exact hhighlights hshow
  have hpainting : d.painting Text.width file =
      d.headline ++ (d.snippets Text.width file).flatMap
        (Snippet.painting (Snippet.numberWidth (d.snippets Text.width file)) file.name
          d.severity.style) ++
        d.footer (Snippet.numberWidth (d.snippets Text.width file)) := by
    simp [painting, pathRow, hpath, hsnippets, footer]
  refine ⟨d.snippets Text.width file, _, hshow, fun c => by rw [format, hpainting], ?_⟩
  intro c hc
  rw [format, hpainting, Painting.toText_eq_plain hc]
  simp only [Painting.plain_append, Painting.plain_flatMap, Snippet.plain_painting,
    Text.below_flatMap]

end Diagnostic

end Frontend
