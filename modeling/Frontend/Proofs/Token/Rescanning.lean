import Frontend.Proofs.Token.Scanning
import Frontend.Tree.Display
import Mathlib.Data.List.Chain

/-!
# Scanning again

What a scanner has read it reads again where it stands before other text, as long as that text does
not go on with it: words and numbers before a blank, a separator or a closing bracket, the content
of literals before the closing quote. Most characters of a text literal are read back from what is
written for them.
-/

namespace Frontend

variable {named? : String → Option Char}

/-! ### Words -/

namespace Lexer

theorem startsWithLetter_append {text : List Char} (rest : List Char) (h : text ≠ []) :
    startsWithLetter (text ++ rest) = startsWithLetter text := by
  obtain ⟨c, text, rfl⟩ := List.exists_cons_of_ne_nil h
  rfl

theorem startsWithDigit_append {text : List Char} (rest : List Char) (h : text ≠ []) :
    startsWithDigit (text ++ rest) = startsWithDigit text := by
  obtain ⟨c, text, rfl⟩ := List.exists_cons_of_ne_nil h
  rfl

/-- What continues a word continues it before other text as well. -/
theorem wordTail_append {k : WordClass} {tail rest : List Char} (htail : wordTail k tail = tail)
    (hrest : wordTail k rest = []) (hletter : startsWithLetter rest = false)
    (hdigit : startsWithDigit rest = false) : wordTail k (tail ++ rest) = tail := by
  induction tail with
  | nil => exact hrest
  | cons c tail ih =>
    rw [wordTail] at htail
    split at htail
    · cases htail
    next hblank =>
    split at htail
    · cases htail
    next hdot =>
    split at htail
    case isFalse => cases htail
    next hclass =>
    have hdot' : ¬ (c = '.' ∧ (startsWithLetter (tail ++ rest) ∨
        startsWithDigit (tail ++ rest))) := by
      cases tail with
      | nil => simp [hletter, hdigit]
      | cons d tail => exact hdot
    rw [List.cons_append, wordTail, if_neg hblank, if_neg hdot', if_pos hclass,
      ih (List.cons.inj htail).2]

/-- The tail of a word is not continued. -/
theorem wordTail_wordTail (k : WordClass) (ahead : List Char) :
    wordTail k (wordTail k ahead) = wordTail k ahead := by
  induction ahead with
  | nil => rfl
  | cons c rest ih =>
    rw [wordTail]
    split
    · rfl
    next hblank =>
    split
    · rfl
    next hdot =>
    split
    case isFalse => rfl
    next hclass =>
    have hdot' : ¬ (c = '.' ∧ (startsWithLetter (wordTail k rest) ∨
        startsWithDigit (wordTail k rest))) := by
      obtain ⟨more, hmore⟩ := wordTail_isPrefix k rest
      rintro ⟨hc, hnext⟩
      refine hdot ⟨hc, ?_⟩
      rw [← hmore]
      cases htail : wordTail k rest with
      | nil =>
        rw [htail] at hnext
        simp [startsWithLetter, startsWithDigit] at hnext
      | cons d tail =>
        rw [htail] at hnext
        exact hnext
    rw [wordTail, if_neg hblank, if_neg hdot', if_pos hclass, ih]

end Lexer

/-! ### Numbers -/

theorem takeWhile_append_of_head? {p : Char → Bool} {text rest : List Char}
    (htext : ∀ c ∈ text, p c) (hrest : ∀ c ∈ rest.head?, p c = false) :
    (text ++ rest).takeWhile p = text := by
  rw [List.takeWhile_append_of_pos htext]
  cases rest with
  | nil => simp
  | cons c rest => simp [hrest c rfl]

namespace Number

/-- A number that has been read, and the two forms it may have. -/
theorem read_eq_ok {ahead text : List Char} (h : read ahead = .ok text) :
    (∀ c ∈ text, c.isDigit) ∨ ∃ whole fraction, text = whole ++ '.' :: fraction ∧
      fraction ≠ [] ∧ (∀ c ∈ whole, c.isDigit) ∧ ∀ c ∈ fraction, c.isDigit := by
  have hdigits (text : List Char) : ∀ c ∈ text.takeWhile Char.isDigit, c.isDigit :=
    List.all_eq_true.mp List.all_takeWhile
  rw [read] at h
  dsimp only at h
  split at h
  · next rest _ =>
    split at h
    · cases h
    next hfraction =>
    split at h
    · cases h
    · cases h
      exact .inr ⟨_, _, rfl, by simpa using hfraction, hdigits ahead, hdigits rest⟩
  · cases h
    exact .inl (hdigits ahead)

/-- What has been read as a number is read as one again before text that does not go on with it. -/
theorem read_again {ahead text rest : List Char} (h : read ahead = .ok text)
    (hrest : ∀ c ∈ rest.head?, c.isDigit = false ∧ c ≠ '.') : read (text ++ rest) = .ok text := by
  have hend : ∀ c ∈ rest.head?, c.isDigit = false := fun c hc => (hrest c hc).1
  have hdot (more : List Char) : rest ≠ '.' :: more := by
    rintro rfl
    exact absurd rfl (hrest '.' rfl).2
  obtain hwhole | ⟨whole, fraction, rfl, hne, hwhole, hfraction⟩ := read_eq_ok h
  · rw [read, takeWhile_append_of_head? hwhole hend, List.drop_left]
    split
    · exact absurd rfl (hdot _)
    · rfl
  · rw [read, List.append_assoc, List.cons_append,
      takeWhile_append_of_head? hwhole (by simp), List.drop_left]
    simp only [takeWhile_append_of_head? hfraction hend, List.drop_left,
      if_neg (show ¬ fraction.isEmpty = true by simpa using hne)]

end Number

/-! ### Escape sequences -/

namespace Escape

theorem takeWhile_take_again {p : Char → Bool} {n : Nat} {ahead rest : List Char}
    (hrest : ∀ c ∈ rest.head?, p c = false) :
    ((((ahead.take n).takeWhile p) ++ rest).take n).takeWhile p = (ahead.take n).takeWhile p := by
  have hlength : ((ahead.take n).takeWhile p).length ≤ n :=
    Nat.le_trans (List.takeWhile_prefix p).length_le (List.length_take_le n ahead)
  rw [List.take_append, List.take_of_length_le hlength]
  refine takeWhile_append_of_head? (List.all_eq_true.mp List.all_takeWhile) fun c hc => ?_
  refine hrest c ?_
  rw [List.head?_take] at hc
  split at hc
  · cases hc
  · exact hc

/-- The form of sequence, which starts with the character `c`, is read again before a closing
apostrophe. -/
def Again (c : Char) (form : List Char → Escape) : Prop :=
  ∀ ahead rest, (form ahead).text.head? = some c ∧
    form ((form ahead).text.tail ++ '\'' :: rest) = form ahead

theorem again_const (c : Char) (value? : Option Char) : Again c fun _ => ⟨[c], value?⟩ :=
  fun _ _ => ⟨rfl, rfl⟩

theorem again_ite {c : Char} {f g : List Char → Escape} {p : Prop} [Decidable p]
    (hf : p → Again c f) (hg : ¬ p → Again c g) :
    Again c fun ahead => if p then f ahead else g ahead := by
  by_cases hp : p
  · simpa only [if_pos hp] using hf hp
  · simpa only [if_neg hp] using hg hp

theorem again_readHex (marker : Char) (size : Nat) : Again marker (readHex marker size) := by
  intro ahead rest
  have hdigits : (((readHex marker size ahead).text.tail ++ '\'' :: rest).take size).takeWhile
      isHexDigit = (readHex marker size ahead).text.tail :=
    takeWhile_take_again (by rintro _ ⟨⟩; decide)
  refine ⟨rfl, ?_⟩
  rw [readHex, hdigits]
  rfl

theorem again_readOctal {c : Char} (hc : isOctalDigit c) :
    Again c fun ahead => readOctal (c :: ahead) := by
  intro ahead rest
  have hdigits : (((c :: ahead).take 3).takeWhile isOctalDigit) =
      c :: (ahead.take 2).takeWhile isOctalDigit := by simp [hc]
  have hagain : ((((c :: ahead).take 3).takeWhile isOctalDigit ++ '\'' :: rest).take 3).takeWhile
      isOctalDigit = ((c :: ahead).take 3).takeWhile isOctalDigit :=
    takeWhile_take_again (by rintro _ ⟨⟩; decide)
  rw [hdigits, List.cons_append] at hagain
  simp only [readOctal, hdigits, List.tail_cons, List.head?_cons, hagain, and_self]

theorem readNamed_cases (named? : String → Option Char) (ahead : List Char) :
    readNamed named? ahead = ⟨['N'], none⟩ ∨ ∃ name, (∀ c ∈ name, isNameChar c) ∧
      readNamed named? ahead =
        ⟨'N' :: '\x7b' :: name ++ ['\x7d'], named? (String.ofList name)⟩ := by
  unfold readNamed
  split
  · next more =>
    dsimp only
    split
    · exact .inr ⟨_, List.all_eq_true.mp List.all_takeWhile, rfl⟩
    · exact .inl rfl
  · exact .inl rfl

theorem again_readNamed (named? : String → Option Char) : Again 'N' (readNamed named?) := by
  intro ahead rest
  obtain hnone | ⟨name, hname, hnamed⟩ := readNamed_cases named? ahead
  · rw [hnone]
    exact ⟨rfl, rfl⟩
  · have hread : (name ++ '\x7d' :: '\'' :: rest).takeWhile isNameChar = name :=
      takeWhile_append_of_head? hname (by simp [isNameChar])
    rw [hnamed]
    simp [readNamed, hread]

theorem again_read (named? : String → Option Char) {c : Char} (hc : c ≠ '\n') :
    Again c fun ahead => read named? (c :: ahead) := by
  simp only [read]
  cases simple? c with
  | some v => exact again_const c (some v)
  | none =>
    refine again_ite (fun h => h ▸ again_readNamed named?) fun _ => ?_
    refine again_ite (fun _ => again_readHex c 2) fun _ => ?_
    refine again_ite (fun _ => again_readHex c 4) fun _ => ?_
    refine again_ite (fun _ => again_readHex c 8) fun _ => ?_
    refine again_ite again_readOctal fun _ => ?_
    exact again_ite (fun h => absurd h hc) fun _ => again_const c none

/-- A sequence that has been read is read again before a closing apostrophe. -/
theorem read_again {ahead : List Char} (rest : List Char) (h : (read named? ahead).text ≠ []) :
    read named? ((read named? ahead).text ++ '\'' :: rest) = read named? ahead := by
  cases ahead with
  | nil => exact absurd rfl h
  | cons c more =>
    have hc : c ≠ '\n' := by
      rintro rfl
      exact h rfl
    obtain ⟨hhead, hagain⟩ := again_read named? hc more rest
    obtain ⟨tail, htail⟩ := List.head?_eq_some_iff.mp hhead
    simpa [htail] using hagain

end Escape

/-! ### Character literals -/

/-- The content that a character literal may have without being misread when it is written between
apostrophes as it is. -/
def CharacterBody.isPlain (content : List Char) : Bool :=
  content != ['\''] && content != ['\\'] && content != ['\n']

/-- The content of a character literal is read again as it is written, unless it is an apostrophe,
a backslash alone or a line feed. -/
theorem CharacterBody.read?_again {ahead : List Char} {body : CharacterBody} (rest : List Char)
    (h : read? named? ahead = some body) (hplain : isPlain body.content) :
    read? named? (body.content ++ '\'' :: rest) = some ⟨body.content, body.content⟩ := by
  have hsingle {c : Char} (hc : isPlain [c]) :
      read? named? ([c] ++ '\'' :: rest) = some ⟨[c], [c]⟩ := by
    simp [isPlain] at hc
    simp [read?, hc]
  cases ahead with
  | nil => cases h
  | cons c more =>
    rw [read?] at h
    split at h
    · cases hvalue : (Escape.read named? more).value? with
      | some v =>
        have hcontent : body.content = [v] := by
          cases h
          simp [Escape.content, hvalue]
        rw [hcontent] at hplain ⊢
        exact hsingle hplain
      | none =>
        have hcontent : body.content = '\\' :: (Escape.read named? more).text := by
          cases h
          simp [Escape.content, hvalue]
        have htext : (Escape.read named? more).text ≠ [] := by
          intro hnil
          rw [hcontent, hnil] at hplain
          cases hplain
        have hagain := Escape.read_again rest htext
        rw [hcontent, List.cons_append, read?, if_pos rfl, hagain]
        simp [Escape.content, hvalue]
    · split at h
      · cases h
      · cases h
        exact hsingle hplain

/-! ### Text literals -/

namespace Text

/-- A character of a text literal as it is written. -/
def escapeLiteralChar (c : Char) : List Char := if c = '$' then ['\\', '$'] else escapeChar c

theorem toList_escapeLiteral (content : String) :
    (escapeLiteral content).toList = content.toList.flatMap escapeLiteralChar := by
  rw [escapeLiteral, String.toList_ofList]
  rfl

/-- The content of a text literal that can be written without code points: no character of it is
escaped by its code point, and no octal digit directly follows a null character. -/
structure IsPlain (content : List Char) : Prop where
  noCodePoint : ∀ c ∈ content, escapeChar c ≠ codePointEscape c
  noOctal : content.IsChain fun c d => c = '\x00' → Escape.isOctalDigit d = false

/-- A character is written as a simple sequence or as itself, unless it is a null character or
written as its code point. -/
theorem escapeLiteralChar_cases {c : Char} (h : escapeChar c ≠ codePointEscape c) :
    c = '\x00' ∨ (∃ d, escapeLiteralChar c = ['\\', d] ∧ Escape.simple? d = some c) ∨
      escapeLiteralChar c = [c] ∧ c ≠ '\n' ∧ c ≠ '"' ∧ c ≠ '\\' ∧ c ≠ '$' := by
  by_cases hdollar : c = '$'
  · exact .inr (.inl ⟨'$', by simp [escapeLiteralChar, hdollar], by simp [hdollar, Escape.simple?]⟩)
  rw [escapeLiteralChar, if_neg hdollar]
  rw [escapeChar] at h ⊢
  by_cases hnul : c = '\x00'
  · exact .inl hnul
  by_cases htab : c = '\t'
  · exact .inr (.inl ⟨'t', by simp [htab], by simp [htab, Escape.simple?]⟩)
  by_cases hreturn : c = '\r'
  · exact .inr (.inl ⟨'r', by simp [hreturn], by simp [hreturn, Escape.simple?]⟩)
  by_cases hfeed : c = '\n'
  · exact .inr (.inl ⟨'n', by simp [hfeed], by simp [hfeed, Escape.simple?]⟩)
  by_cases hquote : c = '"' ∨ c = '\'' ∨ c = '\\'
  · refine .inr (.inl ⟨c, by simp [hnul, htab, hreturn, hfeed, hquote], ?_⟩)
    rcases hquote with rfl | rfl | rfl <;> rfl
  simp only [if_neg hnul, if_neg htab, if_neg hreturn, if_neg hfeed, if_neg hquote] at h ⊢
  split at h
  · next hprintable =>
    rw [if_pos hprintable]
    exact .inr (.inr ⟨rfl, hfeed, fun hc => hquote (.inl hc),
      fun hc => hquote (.inr (.inr hc)), hdollar⟩)
  · exact absurd rfl h

end Text

namespace Segment

variable {c d : Char} {rest : List Char}

theorem read_simple (h : Escape.simple? d = some c) :
    read named? ('\\' :: d :: rest) = ⟨'\\' :: d :: (read named? rest).text,
      c :: (read named? rest).content, (read named? rest).ending⟩ := by
  have hescape : Escape.read named? (d :: rest) = ⟨[d], some c⟩ := by simp only [Escape.read, h]
  rw [read, if_neg (by decide), if_neg (by decide), if_pos rfl]
  simp only [hescape]
  rfl

theorem read_literal (hfeed : c ≠ '\n') (hquote : c ≠ '"') (hbackslash : c ≠ '\\')
    (hdollar : c ≠ '$') :
    read named? (c :: rest) = ⟨c :: (read named? rest).text,
      c :: (read named? rest).content, (read named? rest).ending⟩ := by
  rw [read, if_neg hfeed, if_neg hquote, if_neg hbackslash, if_neg fun h => hdollar h.1]

/-- What is written for a character is read as that character, unless it is a null character or
written as its code point. -/
theorem read_escapeLiteralChar (h : Text.escapeChar c ≠ Text.codePointEscape c)
    (hnull : c ≠ '\x00') :
    read named? (Text.escapeLiteralChar c ++ rest) =
      ⟨Text.escapeLiteralChar c ++ (read named? rest).text, c :: (read named? rest).content,
        (read named? rest).ending⟩ := by
  obtain hc | ⟨d, hc, hd⟩ | ⟨hc, hfeed, hquote, hbackslash, hdollar⟩ :=
    Text.escapeLiteralChar_cases h
  · exact absurd hc hnull
  · rw [hc]
    exact read_simple hd
  · rw [hc]
    exact read_literal hfeed hquote hbackslash hdollar

theorem head?_escapeLiteralChar (h : Text.escapeChar c ≠ Text.codePointEscape c)
    (hc : Escape.isOctalDigit c = false) :
    ∀ d ∈ (Text.escapeLiteralChar c ++ rest).head?, Escape.isOctalDigit d = false := by
  obtain rfl | ⟨d, hd, -⟩ | ⟨hd, -⟩ := Text.escapeLiteralChar_cases h
  · rintro _ ⟨⟩
    rfl
  · rw [hd]
    rintro _ ⟨⟩
    rfl
  · rw [hd]
    rintro _ ⟨⟩
    exact hc

end Segment

end Frontend
