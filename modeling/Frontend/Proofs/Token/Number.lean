import Frontend.Proofs.Token.Legible

/-!
# Numbers

A number is a row of decimal digits, or a dot with digits behind it and perhaps before it. The lexer
finds no other numbers in a text, and it takes a text of this form as one number. A text of digits
and dots that starts with a digit and has another form is refused at its first or at its second dot.
-/

namespace Frontend

open Lexer (startsWithDigit)
open Position (origin)

/-! ### The form of numbers -/

/-- At least one digit, or a dot, at least one digit behind it and any digits before it. -/
inductive IsNumber : List Char → Prop
  | whole {text : List Char} (hne : text ≠ []) (htext : ∀ c ∈ text, c.isDigit) : IsNumber text
  | fraction {whole fraction : List Char} (hwhole : ∀ c ∈ whole, c.isDigit) (hne : fraction ≠ [])
      (hfraction : ∀ c ∈ fraction, c.isDigit) : IsNumber (whole ++ '.' :: fraction)

/-- Where a text of digits and dots stops to be a number: at the second dot if digits follow the
first one, and otherwise directly behind the first one. -/
inductive MisplacedDot : List Char → LexicalError → Prop
  | second {whole fraction rest : List Char} (hwhole : ∀ c ∈ whole, c.isDigit)
      (hne : fraction ≠ []) (hfraction : ∀ c ∈ fraction, c.isDigit) :
      MisplacedDot (whole ++ '.' :: (fraction ++ '.' :: rest))
        ⟨.severalDots, .ofText (origin.after (whole ++ '.' :: fraction)) ['.']⟩
  | first {whole rest : List Char} (hwhole : ∀ c ∈ whole, c.isDigit)
      (hrest : startsWithDigit rest = false) :
      MisplacedDot (whole ++ '.' :: rest) ⟨.finalDot, .empty (origin.after (whole ++ ['.']))⟩

namespace IsNumber

variable {text : List Char}

/-- A number starts with a digit, or with a dot before a digit. -/
theorem exists_cons (h : IsNumber text) :
    ∃ c rest, text = c :: rest ∧ (c.isDigit ∨ c = '.' ∧ startsWithDigit rest) := by
  cases h with
  | whole hne htext =>
    obtain ⟨c, rest, rfl⟩ := List.exists_cons_of_ne_nil hne
    exact ⟨c, rest, rfl, .inl (htext c List.mem_cons_self)⟩
  | @fraction whole fraction hwhole hne hfraction =>
    cases whole with
    | nil =>
      obtain ⟨d, fraction, rfl⟩ := List.exists_cons_of_ne_nil hne
      exact ⟨'.', _, rfl, .inr ⟨rfl, hfraction d List.mem_cons_self⟩⟩
    | cons c whole => exact ⟨c, _, rfl, .inl (hwhole c List.mem_cons_self)⟩

end IsNumber

/-- Digits and what follows them. -/
theorem exists_digits (text : List Char) : ∃ whole rest, text = whole ++ rest ∧
    (∀ c ∈ whole, c.isDigit) ∧ startsWithDigit rest = false := by
  refine ⟨text.takeWhile Char.isDigit, text.dropWhile Char.isDigit,
    List.takeWhile_append_dropWhile.symm, List.all_eq_true.mp List.all_takeWhile, ?_⟩
  have hnot := List.head?_dropWhile_not Char.isDigit text
  rw [startsWithDigit]
  cases hhead : (text.dropWhile Char.isDigit).head? with
  | none => rfl
  | some c => simpa [hhead] using hnot

/-- A text of digits and dots that starts with a digit is a number, or a dot in it is misplaced. -/
theorem isNumber_or_misplacedDot {text : List Char} (hdigit : startsWithDigit text)
    (hchars : ∀ c ∈ text, c.isDigit ∨ c = '.') : IsNumber text ∨ ∃ e, MisplacedDot text e := by
  have hdot {d : Char} {more : List Char} (hd : d ∈ text)
      (hmore : startsWithDigit (d :: more) = false) : d = '.' :=
    (hchars d hd).resolve_left (by simpa [startsWithDigit] using hmore)
  obtain ⟨whole, rest, rfl, hwhole, hrest⟩ := exists_digits text
  cases rest with
  | nil =>
    have hne : whole ≠ [] := by
      rintro rfl
      cases hdigit
    rw [List.append_nil]
    exact .inl (.whole hne hwhole)
  | cons d later =>
    obtain rfl := hdot (by simp) hrest
    cases hlater : startsWithDigit later with
    | false => exact .inr ⟨_, .first hwhole hlater⟩
    | true =>
      obtain ⟨fraction, last, rfl, hfraction, hlast⟩ := exists_digits later
      have hne : fraction ≠ [] := by
        rintro rfl
        rw [List.nil_append, hlast] at hlater
        cases hlater
      cases last with
      | nil =>
        rw [List.append_nil]
        exact .inl (.fraction hwhole hne hfraction)
      | cons d remainder =>
        obtain rfl := hdot (by simp) hlast
        exact .inr ⟨_, .second hwhole hne hfraction⟩

/-! ### Reading numbers -/

namespace Number

variable {ahead text whole fraction rest : List Char}

theorem takeWhile_digits (hwhole : ∀ c ∈ whole, c.isDigit) (rest : List Char)
    (hrest : startsWithDigit rest = false) : (whole ++ rest).takeWhile Char.isDigit = whole := by
  refine takeWhile_append_of_head? hwhole fun c hc => ?_
  obtain ⟨more, rfl⟩ := List.head?_eq_some_iff.mp hc
  exact hrest

theorem read_whole (hwhole : ∀ c ∈ whole, c.isDigit) : read whole = .ok whole := by
  have htake : whole.takeWhile Char.isDigit = whole := by
    simpa using takeWhile_digits hwhole [] rfl
  simp [read, htake]

/-- Behind a dot there are no digits. -/
theorem read_finalDot (hwhole : ∀ c ∈ whole, c.isDigit) (hrest : startsWithDigit rest = false) :
    read (whole ++ '.' :: rest) = .error (.finalDot (whole ++ ['.'])) := by
  have hnone : ∀ c ∈ ([] : List Char), c.isDigit := by simp
  have hfraction : rest.takeWhile Char.isDigit = [] := takeWhile_digits hnone rest hrest
  simp [read, takeWhile_digits hwhole ('.' :: rest) rfl, hfraction]

/-- Behind the digits that follow a dot there is another dot. -/
theorem read_severalDots (hwhole : ∀ c ∈ whole, c.isDigit) (hne : fraction ≠ [])
    (hfraction : ∀ c ∈ fraction, c.isDigit) :
    read (whole ++ '.' :: (fraction ++ '.' :: rest)) =
      .error (.severalDots (whole ++ '.' :: fraction)) := by
  simp only [read, takeWhile_digits hwhole ('.' :: (fraction ++ '.' :: rest)) rfl,
    takeWhile_digits hfraction ('.' :: rest) rfl, List.drop_left, List.isEmpty_iff, if_neg hne]

theorem read_fraction (hwhole : ∀ c ∈ whole, c.isDigit) (hne : fraction ≠ [])
    (hfraction : ∀ c ∈ fraction, c.isDigit) :
    read (whole ++ '.' :: fraction) = .ok (whole ++ '.' :: fraction) := by
  have htake : fraction.takeWhile Char.isDigit = fraction := by
    simpa using takeWhile_digits hfraction [] rfl
  simp only [read, takeWhile_digits hwhole ('.' :: fraction) rfl, htake, List.drop_left,
    List.drop_length, List.isEmpty_iff, if_neg hne]

theorem isNumber_of_read (hne : text ≠ []) (h : read ahead = .ok text) : IsNumber text := by
  obtain htext | ⟨whole, fraction, rfl, hfraction, hwhole, hdigits⟩ := read_eq_ok h
  · exact .whole hne htext
  · exact .fraction hwhole hfraction hdigits

theorem read_of_isNumber (h : IsNumber text) : read text = .ok text := by
  cases h with
  | whole hne htext => exact read_whole htext
  | fraction hwhole hne hfraction => exact read_fraction hwhole hne hfraction

end Number

namespace Lexer

variable {named? : String → Option Char} {text : List Char} {c : Char} {rest : List Char}

/-- Reading a text that starts with a number starts with the number. -/
theorem run_number (hc : c.isDigit ∨ c = '.' ∧ startsWithDigit rest) :
    (ofText (c :: rest)).run named? = (ofText (c :: rest)).number >>= run named? := by
  rw [run_of_cons (show (ofText (c :: rest)).ahead = c :: rest from rfl), step_number hc]

/-- A text that has the form of a number is a single token. -/
theorem run_of_isNumber (named? : String → Option Char) (h : IsNumber text) :
    (ofText text).run named? = .ok [⟨.number (String.ofList text), .ofText origin text⟩,
      ⟨.endOfInput, .empty (origin.after text)⟩] := by
  obtain ⟨c, rest, rfl, hc⟩ := h.exists_cons
  have hread : Number.read (ofText (c :: rest)).ahead = .ok (c :: rest) :=
    Number.read_of_isNumber h
  rw [run_number hc, number, hread]
  have hahead : (ofText (c :: rest)).ahead = (c :: rest) ++ [] := by simp [ofText, Cursor.ofText]
  exact run_of_nil (ahead_emit hahead)

/-- The lexer stops at the misplaced dot of a text that starts with a digit. -/
theorem run_of_misplacedDot {e : LexicalError} (hdigit : startsWithDigit text)
    (h : MisplacedDot text e) : (ofText text).run named? = .error e := by
  have herror : (ofText text).number = .error e := by
    rw [number, show (ofText text).ahead = text from rfl]
    cases h with
    | second hwhole hne hfraction =>
      rw [Number.read_severalDots hwhole hne hfraction]
      rfl
    | first hwhole hrest =>
      rw [Number.read_finalDot hwhole hrest]
      rfl
  cases text with
  | nil => cases hdigit
  | cons c rest =>
    rw [run_number (.inl hdigit), herror]
    rfl

end Lexer

/-! ### Whole texts -/

theorem isNumber_of_lexWith {named? : String → Option Char} {source digits : String}
    {tokens : List Token} {t : Token} (h : lexWith named? source = .ok tokens) (ht : t ∈ tokens)
    (hkind : t.kind = .number digits) : IsNumber digits.toList := by
  have hlegible := (legible_of_lexWith h).1 t ht
  rw [hkind] at hlegible
  obtain ⟨c, rest, hdigits, -, hread⟩ := hlegible
  rw [hdigits]
  exact Number.isNumber_of_read (List.cons_ne_nil c rest) hread

/-- A text is read as a single number if and only if it has the form of one, and all numbers of any
text have this form. A text of digits and dots that starts with a digit and does not have it is
refused at the dot that is misplaced. -/
theorem lexWith_eq_number_iff (named? : String → Option Char) (source : String) :
    ((∃ span stop, lexWith named? source =
        .ok [⟨.number source, span⟩, ⟨.endOfInput, stop⟩]) ↔ IsNumber source.toList) ∧
      (∀ tokens, lexWith named? source = .ok tokens → ∀ t ∈ tokens, ∀ digits,
        t.kind = .number digits → IsNumber digits.toList) ∧
      (startsWithDigit source.toList → (∀ c ∈ source.toList, c.isDigit ∨ c = '.') →
        ¬ IsNumber source.toList →
          ∃ e, lexWith named? source = .error e ∧ MisplacedDot source.toList e) := by
  refine ⟨⟨?_, fun h => ?_⟩, fun tokens h t ht digits => isNumber_of_lexWith h ht,
    fun hdigit hchars hnot => ?_⟩
  · rintro ⟨span, stop, h⟩
    exact isNumber_of_lexWith h List.mem_cons_self rfl
  · have hrun := Lexer.run_of_isNumber named? h
    rw [String.ofList_toList] at hrun
    exact ⟨_, _, hrun⟩
  · obtain ⟨e, he⟩ := (isNumber_or_misplacedDot hdigit hchars).resolve_left hnot
    exact ⟨e, Lexer.run_of_misplacedDot hdigit he, he⟩

/-- A number that starts with a dot, and texts with a second dot and with a dot before the end. -/
theorem lexWith_eq_number_iff_dots :
    lex ".25" = .ok [⟨.number ".25", ⟨0, 0, 0⟩, ⟨3, 0, 3⟩⟩, ⟨.endOfInput, ⟨3, 0, 3⟩, ⟨3, 0, 3⟩⟩] ∧
      IsNumber ".25".toList ∧
      (∃ e, lex "1.2.3" = .error e ∧ MisplacedDot "1.2.3".toList e) ∧
      ∃ e, lex "1..2" = .error e ∧ MisplacedDot "1..2".toList e := by
  have hlex : lex ".25" = .ok [⟨.number ".25", ⟨0, 0, 0⟩, ⟨3, 0, 3⟩⟩,
      ⟨.endOfInput, ⟨3, 0, 3⟩, ⟨3, 0, 3⟩⟩] := by decide +kernel
  have hrefused {source : String} {e : LexicalError} (h : lex source = .error e) :
      ¬ IsNumber source.toList := fun hnumber => by
    obtain ⟨span, stop, hok⟩ := (lexWith_eq_number_iff CharacterName.find? source).1.mpr hnumber
    rw [lex, hok] at h
    cases h
  have hseveral : lex "1.2.3" = .error ⟨.severalDots, ⟨3, 0, 3⟩, ⟨4, 0, 4⟩⟩ := by decide +kernel
  have hfinal : lex "1..2" = .error ⟨.finalDot, ⟨2, 0, 2⟩, ⟨2, 0, 2⟩⟩ := by decide +kernel
  refine ⟨hlex, (lexWith_eq_number_iff CharacterName.find? ".25").1.mp ⟨_, _, hlex⟩, ?_, ?_⟩
  · exact (lexWith_eq_number_iff CharacterName.find? "1.2.3").2.2 (by decide) (by simp)
      (hrefused hseveral)
  · exact (lexWith_eq_number_iff CharacterName.find? "1..2").2.2 (by decide) (by simp)
      (hrefused hfinal)

end Frontend
