import Frontend.Proofs.Check.Warning
import Frontend.Proofs.Diagnostic.Snippet

/-!
# Where diagnostics of files point to

All that the diagnostics of a file point to lies in its text (`Diagnostic.IsAbout`): lexical errors
point to what they are about, and the other diagnostics to tokens. Each of the places is thus in a
line of the file, and the diagnostics are shown with a snippet for each of their highlights.
-/

namespace Frontend

/-- The diagnostic is about parts of the text, which it highlights in order, and about nothing
else. -/
structure Diagnostic.IsAbout (source : List Char) (d : Diagnostic) : Prop where
  path_eq : d.path = none
  highlights_ne_nil : d.highlights ≠ []
  increasing : OrderedList.Increasing d.highlights
  endpoints : ∀ h ∈ d.highlights, ∀ p ∈ [h.span.start, h.span.stop],
    ∃ read, read <+: source ∧ p = Position.counted read

/-! ### Faults -/

theorem LexicalError.isAbout {named? : String → Option Char} {source : List Char}
    {e : LexicalError} (h : e.PointsInto named? source) : e.diagnostic.IsAbout source := by
  obtain ⟨label, hlabel⟩ := e.exists_highlights_eq
  constructor
  · obtain ⟨value, span⟩ := e
    cases value <;> rfl
  · rw [hlabel]
    exact List.cons_ne_nil _ _
  · rw [hlabel]
    exact List.pairwise_singleton _ _
  · intro g hg
    obtain rfl := List.mem_singleton.mp (hlabel ▸ hg)
    exact h.bounds.2

theorem SyntaxError.increasing_highlights (e : SyntaxError) :
    OrderedList.Increasing e.diagnostic.highlights := by
  obtain ⟨fault, token⟩ := e
  cases fault
  case unclosedBracket closing opening =>
    exact OrderedList.increasing_insert (List.pairwise_singleton _ _)
  all_goals exact List.pairwise_singleton _ _

section

variable {named? : String → Option Char} {source : String} {tokens : List Token}

theorem SyntaxError.IsOf.isAbout {e : SyntaxError} (he : e.IsOf tokens)
    (h : lexWith named? source = .ok tokens) : e.diagnostic.IsAbout source.toList := by
  obtain ⟨hcut, -⟩ := cut_of_lexWith h
  constructor
  · obtain ⟨fault, token⟩ := e
    cases fault <;> rfl
  · exact List.ne_nil_of_mem ((e.mem_highlights_iff _).mpr (.inl rfl))
  · exact e.increasing_highlights
  · intro g hg
    rcases (e.mem_highlights_iff g).mp hg with rfl | ⟨closing, opening, hfault, rfl⟩
    · exact fun p hp => hcut.endpoints he.token_mem hp
    · obtain ⟨u, hu, rfl⟩ := he.exists_opening closing opening hfault
      exact fun p hp => hcut.endpoints hu hp

theorem Deferred.isAbout {fixities : FixityTable} {m : Module} {d : Deferred}
    (h : lexWith named? source = .ok tokens) (hm : parseModule tokens fixities = .ok m)
    (hd : d ∈ m.deferred) : d.diagnostic.IsAbout source.toList := by
  obtain ⟨hcut, -⟩ := cut_of_lexWith h
  refine ⟨rfl, List.cons_ne_nil _ _, List.pairwise_singleton _ _, ?_⟩
  intro g hg p hp
  obtain rfl := List.mem_singleton.mp hg
  obtain ⟨line, hline, hframes⟩ :=
    (placedIn_of_parseModule (orderly_of_lexWith h) hm).deferred d hd
  rcases List.mem_pair.mp hp with rfl | rfl
  · obtain ⟨t, ht, hstart⟩ := hframes.exists_first
    exact hcut.endpoints (hline.subset ht) (by simp [hstart])
  · obtain ⟨t, ht, hstop⟩ := hframes.exists_last
    exact hcut.endpoints (hline.subset (List.mem_of_getLast? ht)) (by simp [hstop])

end

/-! ### Files -/

/-- The diagnostics of a file are about its text. -/
theorem SourceFile.isAbout_of_mem_diagnostics {file : SourceFile} {fixities : FixityTable}
    {d : Diagnostic} (hd : d ∈ file.diagnostics fixities) : d.IsAbout file.content.toList := by
  rw [diagnostics_eq_reported] at hd
  have hchecks := file.check_checks fixities
  generalize file.check fixities = result at hchecks hd
  cases hchecks with
  | lexical hlex =>
    obtain rfl := List.mem_singleton.mp hd
    exact LexicalError.isAbout (.of_lexWith hlex)
  | syntactic hlex hparse he =>
    obtain rfl := List.mem_singleton.mp hd
    exact he.isAbout hlex
  | accepted hlex hparse =>
    obtain ⟨item, hitem, rfl⟩ := List.mem_map.mp hd
    exact Deferred.isAbout hlex hparse hitem

/-- Each place that a cursor comes to lies in the line of the file which its number names, and the
diagnostics of a file are shown with a snippet for each of their highlights. -/
theorem SourceFile.shown_of_mem_diagnostics (file : SourceFile) :
    (∀ n, ∃ line, file.LiesIn ((Cursor.ofText file.content.toList).advanceBy n).position line) ∧
      ∀ fixities, ∀ d ∈ file.diagnostics fixities,
        OrderedList.Increasing d.highlights ∧
          ∃ snippets padding, d.ShownWith file snippets padding := by
  refine ⟨file.exists_liesIn_advanceBy, ?_⟩
  intro fixities d hd
  have habout := isAbout_of_mem_diagnostics hd
  refine ⟨habout.increasing, ?_⟩
  refine Diagnostic.exists_shownWith habout.path_eq habout.highlights_ne_nil ?_
  intro h hh
  obtain ⟨read, hread, hstart⟩ := habout.endpoints h hh h.span.start List.mem_cons_self
  rw [hstart]
  exact exists_liesIn hread

/-- The end of input is in the empty line behind the last line break. -/
example :
    let file : SourceFile := ⟨none, "module M\r\nx = (1\r\n"⟩
    (file.diagnostics .standard).map (·.format file .never) =
      ["\n".intercalate [
        "error[E020]: expected a closing ‘)’",
        " --> <anonymous>:2:5",
        "  |",
        "2 | x = (1",
        "  |     - the bracket is opened here",
        " --> <anonymous>:3:1",
        "  |",
        "3 | ",
        "  | ^ found end of input"]] := by
  decide +kernel

end Frontend
