import Frontend.Proofs.Source.Order
import Frontend.Source.Cursor
import Frontend.Source.File
import Mathlib.Data.List.TakeWhile

/-!
# The lines that places lie in

A cursor counts the line feeds that it has passed and the characters since the last one, and a file
is split into lines between its line feeds. The two agree: each place that a cursor comes to lies in
the line of its number, behind as many characters as its column tells (`SourceFile.LiesIn`).
-/

namespace Frontend

/-! ### Pieces -/

namespace Text

variable {separator : Char} {before line rest : List Char}

theorem splitChar_cons_of_ne {c : Char} (hc : c ≠ separator) (text : List Char) :
    ∃ piece pieces, splitChar separator text = piece :: pieces ∧
      splitChar separator (c :: text) = (c :: piece) :: pieces := by
  obtain ⟨piece, pieces, hpieces⟩ := List.exists_cons_of_ne_nil (splitChar_ne_nil separator text)
  exact ⟨piece, pieces, hpieces, by simp [splitChar, hc, hpieces]⟩

/-- A text without the separator is one piece. -/
theorem splitChar_of_not_mem (h : separator ∉ line) : splitChar separator line = [line] := by
  induction line with
  | nil => rfl
  | cons c line ih =>
    obtain ⟨hc, hline⟩ := List.ne_and_not_mem_of_not_mem_cons h
    obtain ⟨piece, pieces, hpieces, hcons⟩ := splitChar_cons_of_ne hc.symm line
    rw [ih hline] at hpieces
    cases hpieces
    exact hcons

/-- The pieces before a separator and those behind it. -/
theorem splitChar_append_cons (separator : Char) (before rest : List Char) :
    splitChar separator (before ++ separator :: rest) =
      splitChar separator before ++ splitChar separator rest := by
  induction before with
  | nil => simp [splitChar]
  | cons c before ih =>
    by_cases hc : c = separator
    · simp [splitChar, hc, ih]
    · obtain ⟨piece, pieces, hpieces, hcons⟩ := splitChar_cons_of_ne hc before
      obtain ⟨piece', pieces', hpieces', hcons'⟩ :=
        splitChar_cons_of_ne hc (before ++ separator :: rest)
      rw [ih, hpieces, List.cons_append] at hpieces'
      cases hpieces'
      rw [List.cons_append, hcons, hcons', List.cons_append]

theorem length_splitChar (separator : Char) (text : List Char) :
    (splitChar separator text).length = text.count separator + 1 := by
  induction text with
  | nil => rfl
  | cons c text ih =>
    by_cases hc : c = separator
    · simp [splitChar, hc, ih]
    · obtain ⟨piece, pieces, hpieces, hcons⟩ := splitChar_cons_of_ne hc text
      rw [hpieces, List.length_cons] at ih
      rw [hcons, List.length_cons, ih, List.count_cons_of_ne hc]

/-- As many pieces stand before a piece as there are separators. -/
theorem getElem?_splitChar (hbefore : before = [] ∨ before.getLast? = some separator)
    (hline : separator ∉ line) (hrest : rest = [] ∨ rest.head? = some separator) :
    (splitChar separator (before ++ (line ++ rest)))[before.count separator]? = some line := by
  have hfirst : (splitChar separator (line ++ rest))[0]? = some line := by
    rcases hrest with rfl | hrest
    · simp [splitChar_of_not_mem hline]
    · obtain ⟨more, rfl⟩ := List.head?_eq_some_iff.mp hrest
      simp [splitChar_append_cons, splitChar_of_not_mem hline]
  rcases hbefore with rfl | hbefore
  · simpa using hfirst
  · obtain ⟨init, rfl⟩ := List.getLast?_eq_some_iff.mp hbefore
    have hcount : (init ++ [separator]).count separator =
        (splitChar separator init).length := by
      simp [length_splitChar]
    rw [List.append_assoc, List.singleton_append, splitChar_append_cons, hcount,
      List.getElem?_append_right (Nat.le_refl _), Nat.sub_self]
    exact hfirst

/-- A carriage return may have been cut off. -/
theorem eq_trimReturn_or (line : List Char) :
    line = trimReturn line ∨ line = trimReturn line ++ ['\r'] := by
  rw [trimReturn]
  split
  · next h =>
    obtain ⟨init, rfl⟩ := List.getLast?_eq_some_iff.mp h
    right
    simp
  · left
    rfl

/-! ### Line ends -/

/-- A text up to its last line feed and behind it. -/
theorem exists_lastLine (text : List Char) :
    ∃ before lead, text = before ++ lead ∧ (before = [] ∨ before.getLast? = some '\n') ∧
      '\n' ∉ lead ∧ lead.length = (text.reverse.takeWhile (· != '\n')).length := by
  refine ⟨(text.reverse.dropWhile (· != '\n')).reverse,
    (text.reverse.takeWhile (· != '\n')).reverse, ?_, ?_, ?_, List.length_reverse⟩
  · rw [← List.reverse_append, List.takeWhile_append_dropWhile, List.reverse_reverse]
  · rw [List.reverse_eq_nil_iff, List.getLast?_reverse]
    cases hdrop : text.reverse.dropWhile (· != '\n') with
    | nil => exact .inl rfl
    | cons c rest =>
      have hc := List.head?_dropWhile_not (· != '\n') text.reverse
      rw [hdrop] at hc
      right
      simpa using hc
  · intro hmem
    have hfeed := List.mem_takeWhile_imp (List.mem_reverse.mp hmem)
    simp at hfeed

/-- A text up to its first line feed and from there on. -/
theorem exists_firstLine (text : List Char) :
    ∃ line rest, text = line ++ rest ∧ '\n' ∉ line ∧
      (rest = [] ∨ rest.head? = some '\n') := by
  obtain ⟨before, lead, htext, hbefore, hlead, -⟩ := exists_lastLine text.reverse
  refine ⟨lead.reverse, before.reverse, ?_, by simpa using hlead, ?_⟩
  · rw [← List.reverse_append, ← htext, List.reverse_reverse]
  · rwa [List.reverse_eq_nil_iff, List.head?_reverse]

end Text

/-! ### Places -/

/-- The place is in the line that its number names: the text since the last line feed before it is
the beginning of that line as far as the column tells, where the line may be followed by a carriage
return. -/
structure SourceFile.LiesIn (f : SourceFile) (p : Position) (line : List Char) : Prop where
  line_eq : f.line? p.line = some line
  exists_lead : ∃ before lead rest, f.content.toList = before ++ (lead ++ rest) ∧
    (before = [] ∨ before.getLast? = some '\n') ∧ '\n' ∉ lead ∧
    p.offset = (String.ofList (before ++ lead)).utf8ByteSize ∧ lead.length = p.column ∧
    (lead = line.take p.column ∨ lead = (line ++ ['\r']).take p.column)

/-- The place behind an initial part of the content lies in a line of the file. -/
theorem SourceFile.exists_liesIn {f : SourceFile} {read : List Char}
    (h : read <+: f.content.toList) : ∃ line, f.LiesIn (.counted read) line := by
  obtain ⟨rest, hcontent⟩ := h
  obtain ⟨before, lead, rfl, hbefore, hlead, hlength⟩ := Text.exists_lastLine read
  -- The line goes on behind the place, up to the next line feed.
  obtain ⟨tail, rest, rfl, htail, hrest⟩ := Text.exists_firstLine rest
  have hsplit : f.content.toList = before ++ ((lead ++ tail) ++ rest) := by
    simp [← hcontent]
  have hnumber : (before ++ lead).count '\n' = before.count '\n' := by
    rw [List.count_append, List.count_eq_zero_of_not_mem hlead, Nat.add_zero]
  have hline : '\n' ∉ lead ++ tail := by
    simp [hlead, htail]
  have hpiece := Text.getElem?_splitChar hbefore hline hrest
  refine ⟨Text.trimReturn (lead ++ tail), ?_, before, lead, tail ++ rest, by simp [hsplit],
    hbefore, hlead, rfl, hlength, ?_⟩
  · rw [line?, hsplit, Position.counted, hnumber, hpiece, Option.map_some]
  · have htake : lead = (lead ++ tail).take (Position.counted (before ++ lead)).column := by
      rw [Position.counted, ← hlength, List.take_left]
    rcases Text.eq_trimReturn_or (lead ++ tail) with h | h
    · left
      rwa [h] at htake
    · right
      rwa [h] at htake

/-! ### Cursors -/

theorem Cursor.position_advanceBy (c : Cursor) (n : Nat) :
    (c.advanceBy n).position = c.position.after (c.ahead.take n) := by
  induction n generalizing c with
  | zero => rfl
  | succ n ih =>
    rw [advanceBy, ih, advance]
    split
    · next h => simp [h]
    · next h => simp [h]

/-- Each place that a cursor comes to lies in a line of the file. -/
theorem SourceFile.exists_liesIn_advanceBy (f : SourceFile) (n : Nat) :
    ∃ line, f.LiesIn ((Cursor.ofText f.content.toList).advanceBy n).position line := by
  rw [Cursor.position_advanceBy, Cursor.ofText, Position.origin_after]
  exact exists_liesIn (List.take_prefix n _)

end Frontend
