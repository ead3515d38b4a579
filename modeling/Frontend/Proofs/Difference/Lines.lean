import Frontend.Proofs.Difference.Changes
import Frontend.Proofs.Paint.Plain

/-!
# The lines of a difference

The difference of two texts is a text of rows: behind its mark each row has a line of a change.
Without the rows that are added, the rows show the old text, and without those that are removed the
new one. They show all lines of it just if each of its changes is shown completely
(`Difference.linesBut_difference_iff`): the lines of a change are split off a text again, and with
it a blank line at the end gets lost, and so do carriage returns before line feeds.
-/

namespace Frontend

namespace Difference

open Text (splitChar trimReturn)

/-! ### The lines of a change -/

namespace Change

/-- The lines of a change that are shown. -/
def shown : Change → List (List Char)
  | same t    => Text.lines t
  | added t   => shownLines t
  | removed t => shownLines t

/-- The lines of a change that are shown, unless they have the mark `m`. -/
def shownBut (m : Char) (c : Change) : List (List Char) := if c.mark = m then [] else c.shown

/-- All lines of the change are shown as they are: none but the last one ends in a carriage return,
and the last one is not blank, unless it is the only one and is marked. -/
structure Complete (c : Change) : Prop where
  noReturn : ∀ line ∈ (splitChar '\n' c.text).dropLast, line.getLast? ≠ some '\r'
  notBlank : (splitChar '\n' c.text).getLast? = some [] → c.text = [] ∧ c.mark ≠ ' '

end Change

theorem trimReturn_eq_self_iff {line : List Char} :
    trimReturn line = line ↔ line.getLast? ≠ some '\r' := by
  rw [trimReturn]
  split
  · next h =>
    obtain ⟨init, rfl⟩ := List.getLast?_eq_some_iff.mp h
    simp
  · next h => simp [h]

theorem map_trimReturn_eq_self_iff {lines : List (List Char)} :
    lines.map trimReturn = lines ↔ ∀ line ∈ lines, line.getLast? ≠ some '\r' := by
  simp only [← trimReturn_eq_self_iff]
  conv_lhs => rw [← List.map_id lines, List.map_map]
  exact List.map_inj_left

/-- The lines that a text is split into, from the pieces between its line feeds. -/
theorem exists_lines_eq (text : List Char) : ∃ init last, splitChar '\n' text = init ++ [last] ∧
    Text.lines text = init.map trimReturn ++ (if last.isEmpty then [] else [last]) := by
  rcases List.eq_nil_or_concat' (splitChar '\n' text) with hnil | ⟨init, last, h⟩
  · exact absurd hnil (Text.splitChar_ne_nil _ _)
  · exact ⟨init, last, h, by simp [Text.lines, h]⟩

theorem length_lines_le (text : List Char) :
    (Text.lines text).length ≤ (splitChar '\n' text).length := by
  obtain ⟨init, last, hsplit, hlines⟩ := exists_lines_eq text
  rw [hsplit, hlines]
  split <;> simp

theorem lines_eq_splitChar_iff {text : List Char} : Text.lines text = splitChar '\n' text ↔
    (∀ line ∈ (splitChar '\n' text).dropLast, line.getLast? ≠ some '\r') ∧
      (splitChar '\n' text).getLast? ≠ some [] := by
  obtain ⟨init, last, hsplit, hlines⟩ := exists_lines_eq text
  rw [hsplit, hlines, List.dropLast_concat, List.getLast?_concat, ← map_trimReturn_eq_self_iff]
  by_cases hlast : last = []
  · have hlength : init.map trimReturn ≠ init ++ [last] := by
      intro h
      simpa using congrArg List.length h
    simp [hlast] at hlength ⊢
    exact hlength
  · simp [hlast]

namespace Change

theorem complete_iff {c : Change} : c.Complete ↔
    (∀ line ∈ (splitChar '\n' c.text).dropLast, line.getLast? ≠ some '\r') ∧
      ((splitChar '\n' c.text).getLast? = some [] → c.text = [] ∧ c.mark ≠ ' ') :=
  ⟨fun h => ⟨h.noReturn, h.notBlank⟩, fun h => ⟨h.1, h.2⟩⟩

/-- A change is shown completely just if what is shown of it are its lines. -/
theorem shown_eq_iff {c : Change} : c.shown = splitChar '\n' c.text ↔ c.Complete := by
  have hmarked (t : List Char) : shownLines t = splitChar '\n' t ↔
      (∀ line ∈ (splitChar '\n' t).dropLast, line.getLast? ≠ some '\r') ∧
        ((splitChar '\n' t).getLast? = some [] → t = []) := by
    by_cases ht : t = []
    · simp [shownLines, ht, splitChar]
    · simp [shownLines, ht, lines_eq_splitChar_iff]
  rw [complete_iff]
  cases c with
  | same t => simp [shown, text, mark, lines_eq_splitChar_iff]
  | added t => simp [shown, text, mark, hmarked]
  | removed t => simp [shown, text, mark, hmarked]

theorem length_shown_le (c : Change) : c.shown.length ≤ (splitChar '\n' c.text).length := by
  have hmarked : (shownLines c.text).length ≤ (splitChar '\n' c.text).length := by
    rw [shownLines]
    split
    · next h =>
      rw [List.isEmpty_iff.mp h]
      exact Nat.le_refl 1
    · exact length_lines_le c.text
  cases c with
  | same t => exact length_lines_le t
  | added t => exact hmarked
  | removed t => exact hmarked

end Change

/-! ### The rows of a difference -/

theorem splitChar_rows {rows : List (List Char)} (h : ∀ row ∈ rows, '\n' ∉ row) :
    splitChar '\n' (rows.flatMap (· ++ ['\n'])) = rows ++ [[]] := by
  induction rows with
  | nil => rfl
  | cons row rows ih =>
    obtain ⟨hrow, hrows⟩ := List.forall_mem_cons.mp h
    rw [List.flatMap_cons, List.append_assoc, List.singleton_append, Text.splitChar_append_cons,
      Text.splitChar_of_not_mem hrow, ih hrows]
    rfl

/-- The rows of a change: behind its mark and a space each row has a line. -/
def Change.rows (c : Change) : List (List Char) := c.shown.map (c.mark :: ' ' :: ·)

theorem Change.toList_plain_painting (c : Change) :
    c.painting.plain.toList = c.rows.flatMap (· ++ ['\n']) := by
  have hjoin (lines : List (List Char)) (row : List Char → String) :
      (String.join (lines.map row)).toList = lines.flatMap fun line => (row line).toList := by
    induction lines with
    | nil => rfl
    | cons line lines ih => simp [ih]
  cases c with
  | same t => simp [painting, rows, shown, mark, hjoin, List.flatMap_map]
  | added t => simp [painting, rows, shown, mark, markedLine, hjoin, List.flatMap_map]
  | removed t => simp [painting, rows, shown, mark, markedLine, hjoin, List.flatMap_map]

theorem not_mem_of_mem_lines {text line : List Char} (h : line ∈ Text.lines text) :
    '\n' ∉ line := by
  obtain ⟨init, last, hsplit, hlines⟩ := exists_lines_eq text
  have hpieces : ∀ piece ∈ init ++ [last], '\n' ∉ piece := by
    rw [← hsplit]
    exact fun _ => not_mem_of_mem_splitChar
  rw [List.forall_mem_append, List.forall_mem_singleton] at hpieces
  rw [hlines] at h
  rcases List.mem_append.mp h with h | h
  · obtain ⟨piece, hpiece, rfl⟩ := List.mem_map.mp h
    intro hfeed
    refine hpieces.1 piece hpiece ?_
    rcases Text.eq_trimReturn_or piece with heq | heq
    · rwa [heq]
    · rw [heq]
      exact List.mem_append_left _ hfeed
  · split at h
    · cases h
    · rw [List.mem_singleton.mp h]
      exact hpieces.2

theorem Change.not_mem_of_mem_shown {c : Change} {line : List Char} (h : line ∈ c.shown) :
    '\n' ∉ line := by
  have hmarked {t : List Char} (h : line ∈ shownLines t) : '\n' ∉ line := by
    rw [shownLines] at h
    split at h
    · rw [List.mem_singleton.mp h]
      exact List.not_mem_nil
    · exact not_mem_of_mem_lines h
  cases c with
  | same t => exact not_mem_of_mem_lines h
  | added t => exact hmarked h
  | removed t => exact hmarked h

theorem Change.not_mem_of_mem_rows {c : Change} {row : List Char} (h : row ∈ c.rows) :
    '\n' ∉ row := by
  obtain ⟨line, hline, rfl⟩ := List.mem_map.mp h
  have hmark : '\n' ≠ c.mark := by cases c <;> simp [Change.mark]
  simp [hmark, Change.not_mem_of_mem_shown hline]

/-- The difference of two texts without colours is the text of the rows of its changes. -/
theorem toList_difference (old new : String) : (difference old new "\n" .never).toList =
    ((changes ['\n'] old.toList new.toList).flatMap Change.rows).flatMap (· ++ ['\n']) := by
  have hseparator : "\n".toList = ['\n'] := by decide
  rw [difference, Painting.toText_eq_plain rfl, hseparator, List.flatMap_assoc]
  induction changes ['\n'] old.toList new.toList with
  | nil => rfl
  | cons c changes ih =>
    rw [List.flatMap_cons, List.flatMap_cons, Painting.plain_append, String.toList_append, ih,
      Change.toList_plain_painting]

/-- The lines in the rows of a difference, but for those with the mark `m`. -/
def linesBut (m : Char) (difference : String) : List (List Char) :=
  ((splitChar '\n' difference.toList).dropLast.filter (·.head? != some m)).map (·.drop 2)

/-- The rows of a difference show what is shown of its changes. -/
theorem linesBut_difference (m : Char) (old new : String) :
    linesBut m (difference old new "\n" .never) =
      (changes ['\n'] old.toList new.toList).flatMap (Change.shownBut m) := by
  have hrows : ∀ row ∈ (changes ['\n'] old.toList new.toList).flatMap Change.rows, '\n' ∉ row := by
    intro row hrow
    obtain ⟨c, -, hc⟩ := List.mem_flatMap.mp hrow
    exact Change.not_mem_of_mem_rows hc
  have hchange (c : Change) :
      (c.rows.filter (·.head? != some m)).map (·.drop 2) = c.shownBut m := by
    by_cases hm : c.mark = m
    · simp [Change.rows, Change.shownBut, hm, List.filter_map, Function.comp_def]
    · simp [Change.rows, Change.shownBut, hm, List.filter_map, Function.comp_def]
  rw [linesBut, toList_difference, splitChar_rows hrows, List.dropLast_concat, List.filter_flatMap,
    List.map_flatMap]
  exact congrArg (List.flatMap · _) (funext hchange)

theorem length_flatMap_le {α β : Type} {f g : α → List β} {as : List α}
    (h : ∀ a ∈ as, (f a).length ≤ (g a).length) :
    (as.flatMap f).length ≤ (as.flatMap g).length := by
  induction as with
  | nil => exact Nat.le_refl 0
  | cons a as ih =>
    obtain ⟨ha, has⟩ := List.forall_mem_cons.mp h
    rw [List.flatMap_cons, List.flatMap_cons, List.length_append, List.length_append]
    exact Nat.add_le_add ha (ih has)

theorem flatMap_eq_flatMap_iff {α β : Type} {f g : α → List β} {as : List α}
    (h : ∀ a ∈ as, (f a).length ≤ (g a).length) :
    as.flatMap f = as.flatMap g ↔ ∀ a ∈ as, f a = g a := by
  induction as with
  | nil => simp
  | cons a as ih =>
    obtain ⟨ha, has⟩ := List.forall_mem_cons.mp h
    have hrest := length_flatMap_le has
    rw [List.forall_mem_cons, ← ih has, List.flatMap_cons, List.flatMap_cons]
    constructor
    · intro heq
      have hlength := congrArg List.length heq
      rw [List.length_append, List.length_append] at hlength
      exact List.append_inj heq (by omega)
    · rintro ⟨ha, has⟩
      rw [ha, has]

/-- A difference shows the old text but for its added rows, and the new text but for its removed
rows. All lines of the text are shown, as they are and in their order, just if the changes that they
belong to are complete. -/
theorem linesBut_difference_iff (old new : String) :
    let shown := difference old new "\n" .never
    let changes := changes ['\n'] old.toList new.toList
    (linesBut '+' shown = linesOf old.toList ↔ ∀ c ∈ changes, c.mark ≠ '+' → c.Complete) ∧
      (linesBut '-' shown = linesOf new.toList ↔ ∀ c ∈ changes, c.mark ≠ '-' → c.Complete) := by
  intro shown changes
  have hiff (m : Char) : linesBut m shown = changes.flatMap (Change.piecesBut m) ↔
      ∀ c ∈ changes, c.mark ≠ m → c.Complete := by
    rw [linesBut_difference, flatMap_eq_flatMap_iff]
    · refine forall₂_congr fun c _ => ?_
      by_cases hm : c.mark = m
      · simp [Change.shownBut, Change.piecesBut, hm]
      · simp [Change.shownBut, Change.piecesBut, hm, Change.shown_eq_iff]
    · intro c _
      by_cases hm : c.mark = m
      · simp [Change.shownBut, Change.piecesBut, hm]
      · simpa [Change.shownBut, Change.piecesBut, hm] using c.length_shown_le
  obtain ⟨hold, hnew⟩ := pieces_changes old.toList new.toList
  rw [← hold, ← hnew]
  exact ⟨hiff '+', hiff '-'⟩

/-- A blank line that both texts have between two changes is not shown. -/
theorem linesBut_blank_line :
    let shown := difference "a\n\nb" "a\nx\n\nc" "\n" .never
    linesOf "a\n\nb".toList = [['a'], [], ['b']] ∧ linesBut '+' shown = [['a'], ['b']] := by
  decide +kernel

end Difference

end Frontend
