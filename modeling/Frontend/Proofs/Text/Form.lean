import Frontend.Proofs.Token.Unescaping

/-!
# Exact forms

The exact forms of numbers, positions, spans and texts are unambiguous: no two of them have the same
form (`Position.inspect_injective`, `Span.inspect_injective`, `Text.quoted_injective`). They all are
on one line, and there is no blank in a span, so that it is known where they end in a longer text.
-/

namespace Frontend

/-! ### Where a form ends -/

/-- Two texts go on behind the same form if the form holds no character with which they go on. -/
theorem Text.append_inj_of_head? (stop : Char) {first second rest rest' : List Char}
    (hfirst : stop ∉ first) (hsecond : stop ∉ second) (hrest : ∀ c ∈ rest.head?, c = stop)
    (hrest' : ∀ c ∈ rest'.head?, c = stop) (h : first ++ rest = second ++ rest') :
    first = second ∧ rest = rest' := by
  induction first generalizing second with
  | nil =>
    cases second with
    | nil => exact ⟨rfl, h⟩
    | cons c second =>
      obtain rfl : rest = c :: (second ++ rest') := h
      exact absurd (hrest c rfl) (List.ne_of_not_mem_cons hsecond).symm
  | cons c first ih =>
    cases second with
    | nil =>
      obtain rfl : c :: (first ++ rest) = rest' := h
      exact absurd (hrest' c rfl) (List.ne_of_not_mem_cons hfirst).symm
    | cons d second =>
      obtain ⟨rfl, htails⟩ := List.cons.inj h
      obtain ⟨rfl, hrests⟩ := ih (List.not_mem_of_not_mem_cons hfirst)
        (List.not_mem_of_not_mem_cons hsecond) htails
      exact ⟨rfl, hrests⟩

/-! ### Numbers -/

theorem Escape.digitValue_digitChar {d : Nat} (hd : d < 16) : digitValue (Nat.digitChar d) = d := by
  have hall : ∀ d < 16, digitValue (Nat.digitChar d) = d := by decide
  exact hall d hd

/-- A number is read back from its digits. -/
theorem Escape.ofDigits_toDigits {base : Nat} (hone : 1 < base) (hbase : base ≤ 16) (n : Nat) :
    ofDigits base (Nat.toDigits base n) = n := by
  induction n using Nat.strongRecOn with
  | ind n ih =>
    rw [Nat.toDigits_eq_if hone]
    split
    · next hn => simp [ofDigits, digitValue_digitChar (Nat.lt_of_lt_of_le hn hbase)]
    · next hn =>
      have hmod : n % base < 16 := Nat.lt_of_lt_of_le (Nat.mod_lt n (by omega)) hbase
      rw [ofDigits_concat, ih (n / base) (Nat.div_lt_self (by omega) hone),
        digitValue_digitChar hmod, Nat.div_add_mod]

theorem Escape.toDigits_injective {base : Nat} (hone : 1 < base) (hbase : base ≤ 16) :
    Function.Injective (Nat.toDigits base) :=
  Function.LeftInverse.injective (ofDigits_toDigits hone hbase)

namespace Text

theorem toList_toString (n : Nat) : (toString n).toList = Nat.toDigits 10 n := by
  rw [Nat.toString_eq_repr, Nat.toList_repr]

theorem not_mem_toDigits {c : Char} (hc : c.isDigit = false) (n : Nat) :
    c ∉ Nat.toDigits 10 n := by
  intro hmem
  rw [Nat.isDigit_of_mem_toDigits (by decide) (by decide) hmem] at hc
  cases hc

theorem toDigits_ten_inj {m n : Nat} : Nat.toDigits 10 m = Nat.toDigits 10 n ↔ m = n :=
  (Escape.toDigits_injective (by decide) (by decide)).eq_iff

end Text

/-! ### Spans -/

namespace Position

theorem toList_inspect (p : Position) : p.inspect.toList =
    Nat.toDigits 10 p.offset ++ '@' :: (Nat.toDigits 10 p.line ++ ':' ::
      Nat.toDigits 10 p.column) := by
  simp [inspect, Nat.toList_repr]

theorem not_mem_inspect {c : Char} (hc : c.isDigit = false ∧ c ≠ '@' ∧ c ≠ ':') (p : Position) :
    c ∉ p.inspect.toList := by
  obtain ⟨hdigit, hat, hcolon⟩ := hc
  simp [toList_inspect, Text.not_mem_toDigits hdigit, hat, hcolon]

theorem inspect_injective : Function.Injective inspect := by
  intro p q h
  have hp := congrArg String.toList h
  rw [toList_inspect, toList_inspect] at hp
  obtain ⟨hoffset, hp⟩ := Text.append_inj_of_head? '@'
    (Text.not_mem_toDigits (by decide) _) (Text.not_mem_toDigits (by decide) _) (by simp) (by simp)
    hp
  obtain ⟨hline, hp⟩ := Text.append_inj_of_head? ':'
    (Text.not_mem_toDigits (by decide) _) (Text.not_mem_toDigits (by decide) _) (by simp) (by simp)
    (List.cons.inj hp).2
  rw [Text.toDigits_ten_inj] at hoffset hline
  have hcolumn := Text.toDigits_ten_inj.mp (List.cons.inj hp).2
  cases p
  cases q
  simp_all

end Position

namespace Span

theorem toList_inspect (s : Span) :
    s.inspect.toList = s.start.inspect.toList ++ '.' :: '.' :: s.stop.inspect.toList := by
  simp [inspect]

/-- There are digits and four marks in the form of a span, and nothing else. -/
theorem not_mem_inspect {c : Char} (hc : c.isDigit = false ∧ c ≠ '@' ∧ c ≠ ':') (hdot : c ≠ '.')
    (s : Span) : c ∉ s.inspect.toList := by
  simp [toList_inspect, Position.not_mem_inspect hc, hdot]

theorem inspect_injective : Function.Injective inspect := by
  rintro ⟨start, stop⟩ ⟨start', stop'⟩ h
  have hs := congrArg String.toList h
  rw [toList_inspect, toList_inspect] at hs
  obtain ⟨hstart, hs⟩ := Text.append_inj_of_head? '.'
    (Position.not_mem_inspect (by decide) _) (Position.not_mem_inspect (by decide) _) (by simp)
    (by simp) hs
  have hstop := (List.cons.inj (List.cons.inj hs).2).2
  obtain rfl : start = start' := Position.inspect_injective (String.toList_inj.mp hstart)
  obtain rfl : stop = stop' := Position.inspect_injective (String.toList_inj.mp hstop)
  rfl

end Span

/-! ### Quoted texts -/

namespace Text

/-- A character of a quoted text. -/
def quotedChar (c : Char) : List Char := if c = '\'' then [c] else escapeChar c

theorem toList_quoted (text : String) :
    (quoted text).toList = '"' :: (text.toList.flatMap quotedChar ++ ['"']) := by
  rw [quoted, String.toList_ofList]
  rfl

/-- The characters that are written as a backslash and one more character, and that one. -/
def shortEscapes : List (Char × Char) :=
  [('\x00', '0'), ('\t', 't'), ('\r', 'r'), ('\n', 'n'), ('"', '"'), ('\\', '\\')]

/-- A character of a quoted text is written as itself, with a backslash or as its code point. -/
theorem quotedChar_cases (c : Char) :
    quotedChar c = [c] ∧ c ≠ '\\' ∧ c ≠ '\n' ∨
      (∃ d, quotedChar c = ['\\', d] ∧ (c, d) ∈ shortEscapes) ∨
      quotedChar c = codePointEscape c := by
  obtain rfl | hnull := eq_or_ne c '\x00'
  · exact .inr (.inl ⟨'0', rfl, by decide⟩)
  obtain rfl | htab := eq_or_ne c '\t'
  · exact .inr (.inl ⟨'t', rfl, by decide⟩)
  obtain rfl | hreturn := eq_or_ne c '\r'
  · exact .inr (.inl ⟨'r', rfl, by decide⟩)
  obtain rfl | hfeed := eq_or_ne c '\n'
  · exact .inr (.inl ⟨'n', rfl, by decide⟩)
  obtain rfl | hquote := eq_or_ne c '"'
  · exact .inr (.inl ⟨'"', rfl, by decide⟩)
  obtain rfl | hbackslash := eq_or_ne c '\\'
  · exact .inr (.inl ⟨'\\', rfl, by decide⟩)
  obtain rfl | hapostrophe := eq_or_ne c '\''
  · exact .inl ⟨rfl, by decide, by decide⟩
  by_cases hprintable : isPrintable c
  · exact .inl ⟨by simp [quotedChar, escapeChar, *], hbackslash, hfeed⟩
  · exact .inr (.inr (by simp [quotedChar, escapeChar, *]))

theorem quotedChar_ne_nil (c : Char) : quotedChar c ≠ [] := by
  rcases quotedChar_cases c with ⟨hc, -⟩ | ⟨d, hc, -⟩ | hc
  · simp [hc]
  · simp [hc]
  · simp [hc, codePointEscape]

theorem lineFeed_not_mem_quotedChar (c : Char) : '\n' ∉ quotedChar c := by
  have hshort : ∀ p ∈ shortEscapes, p.2 ≠ '\n' := by decide
  rcases quotedChar_cases c with ⟨hc, -, hfeed⟩ | ⟨d, hc, hd⟩ | hc
  · simpa [hc] using hfeed.symm
  · simpa [hc] using (hshort _ hd).symm
  · obtain ⟨body, hbody, hother⟩ := exists_codePointEscape c
    rw [hc, hbody]
    simpa using fun hmem => (hother _ hmem).1 rfl

/-- A quoted text is on one line. -/
theorem lineFeed_not_mem_quoted (text : String) : '\n' ∉ (quoted text).toList := by
  rw [toList_quoted]
  simpa using fun c _ => lineFeed_not_mem_quotedChar c

/-- Behind the code point of a character a text goes on as it did. -/
theorem codePointEscape_append_inj {c d : Char} {rest rest' : List Char}
    (h : codePointEscape c ++ rest = codePointEscape d ++ rest') : c = d := by
  have hbracket (n : Nat) : '\x7d' ∉ Nat.toDigits 16 n := by
    have hdigits : ∀ d < 16, '\x7d' ≠ Nat.digitChar d := by decide
    intro hmem
    obtain ⟨d, hd, hchar⟩ := exists_digitChar_of_mem_toDigits (by decide) hmem
    exact hdigits d hd hchar
  simp only [codePointEscape, List.append_assoc, List.append_cancel_left_eq,
    List.singleton_append] at h
  obtain ⟨hdigits, -⟩ := append_inj_of_head? '\x7d' (hbracket _) (hbracket _) (by simp)
    (by simp) h
  exact Char.toNat_inj.mp (Escape.toDigits_injective (by decide) (by decide) hdigits)

/-- The first character of a quoted text is known from the text. -/
theorem quotedChar_append_inj {c d : Char} {rest rest' : List Char}
    (h : quotedChar c ++ rest = quotedChar d ++ rest') : c = d := by
  have hmarker : ∀ p ∈ shortEscapes, p.2 ≠ 'u' := by decide
  have hinjective : ∀ p ∈ shortEscapes, ∀ q ∈ shortEscapes, p.2 = q.2 → p.1 = q.1 := by decide
  rcases quotedChar_cases c with ⟨hc, hplain, -⟩ | ⟨x, hc, hx⟩ | hc <;>
    rcases quotedChar_cases d with ⟨hd, hplain', -⟩ | ⟨y, hd, hy⟩ | hd <;> rw [hc, hd] at h
  · exact (List.cons.inj h).1
  · exact absurd (List.cons.inj h).1 hplain
  · exact absurd (List.cons.inj h).1 hplain
  · exact absurd (List.cons.inj h).1.symm hplain'
  · exact hinjective _ hx _ hy (List.cons.inj (List.cons.inj h).2).1
  · exact absurd (List.cons.inj (List.cons.inj h).2).1 (hmarker _ hx)
  · exact absurd (List.cons.inj h).1.symm hplain'
  · exact absurd (List.cons.inj (List.cons.inj h).2).1.symm (hmarker _ hy)
  · exact codePointEscape_append_inj h

theorem flatMap_quotedChar_injective :
    Function.Injective fun text : List Char => text.flatMap quotedChar := by
  intro text
  induction text with
  | nil =>
    rintro (_ | ⟨d, text'⟩) h
    · rfl
    · simp [quotedChar_ne_nil] at h
  | cons c text ih =>
    rintro (_ | ⟨d, text'⟩) h
    · simp [quotedChar_ne_nil] at h
    · simp only [List.flatMap_cons] at h
      obtain rfl := quotedChar_append_inj h
      rw [ih (List.append_cancel_left h)]

theorem quoted_injective : Function.Injective quoted := by
  intro text text' h
  have hquoted := congrArg String.toList h
  rw [toList_quoted, toList_quoted] at hquoted
  have hbody := List.append_cancel_right (List.cons.inj hquoted).2
  exact String.toList_inj.mp (flatMap_quotedChar_injective hbody)

end Text

end Frontend
