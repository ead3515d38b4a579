import Frontend.Proofs.Token.Legible

/-!
# Words

A word is as long as it can be: its characters are of one class, and what stands behind it does not
go on with it. What it stands for is decided by its text and its class. The dot of a member access
joins two words, and there is nothing between it and either of them.
-/

namespace Frontend

open Lexer (startsWithDigit startsWithLetter wordKind wordTail)
open Text (isBlank)

/-! ### Words of a class -/

/-- A word of the class does not go on with the text: there is none, or there is a blank, a reserved
character, a character of another class, or a dot before a letter or a digit. -/
def EndsWord (k : WordClass) (rest : List Char) : Prop :=
  ∀ c ∈ rest.head?, isBlank c ∨ isReserved c ∨ WordClass.of? c ≠ some k ∨
    c = '.' ∧ (startsWithLetter rest.tail ∨ startsWithDigit rest.tail)

/-- A character that a word of the class may have. -/
structure IsWordChar (k : WordClass) (c : Char) : Prop where
  notBlank : isBlank c = false
  notReserved : isReserved c = false
  class_eq : WordClass.of? c = some k

/-- The text is a word of the class, and before the text `rest` there is no longer one. -/
structure MaximalWord (k : WordClass) (text rest : List Char) : Prop where
  ne_nil : text ≠ []
  chars : ∀ c ∈ text, IsWordChar k c
  notDigit : startsWithDigit text = false
  notLineComment : ¬ ['/', '/'] <+: text
  notBlockComment : ¬ ['/', '*'] <+: text
  ends : EndsWord k rest

/-- What a word of a class stands for: a symbol of the language itself if it is reserved, and
otherwise an operator or an identifier, as its class says. -/
structure TokenKind.StandsFor (kind : TokenKind) (k : WordClass) (word : String) : Prop where
  symbol : ∀ s, kind = .symbol s ↔ s ∈ Symbol.words ∧ s.name = word
  operator : ∀ name, kind = .operator name ↔
    name = word ∧ k = .symbolic ∧ ∀ s ∈ Symbol.words, s.name ≠ word
  identifier : ∀ name, kind = .identifier name ↔
    name = word ∧ k ≠ .symbolic ∧ ∀ s ∈ Symbol.words, s.name ≠ word

theorem Symbol.ofWord?_eq_some_iff {word : String} {s : Symbol} :
    ofWord? word = some s ↔ s ∈ words ∧ s.name = word := by
  have hinj : ∀ s ∈ words, ofWord? s.name = some s := by decide
  constructor
  · intro h
    exact ⟨List.mem_of_find?_eq_some h, name_of_ofWord? h⟩
  · rintro ⟨hs, rfl⟩
    exact hinj s hs

theorem Symbol.ofWord?_eq_none_iff {word : String} :
    ofWord? word = none ↔ ∀ s ∈ words, s.name ≠ word := by
  simp [ofWord?]

theorem TokenKind.standsFor_wordKind (k : WordClass) (word : String) :
    (wordKind k word).StandsFor k word := by
  rw [wordKind]
  cases hword : Symbol.ofWord? word with
  | some s =>
    have hs := Symbol.ofWord?_eq_some_iff.mp hword
    have hnone : ¬ ∀ s ∈ Symbol.words, s.name ≠ word := fun h => h s hs.1 hs.2
    refine ⟨fun s' => ?_, fun name => ?_, fun name => ?_⟩
    · rw [← Symbol.ofWord?_eq_some_iff, hword]
      simp
    · simp [hnone]
    · simp [hnone]
  | none =>
    have hnone := Symbol.ofWord?_eq_none_iff.mp hword
    have hreserved : ∀ s, s ∈ Symbol.words ∧ s.name = word ↔ False :=
      fun s => iff_of_false (fun h => hnone s h.1 h.2) id
    by_cases hk : k = .symbolic
    · simp only [if_pos hk]
      refine ⟨fun s => ?_, fun name => ?_, fun name => ?_⟩
      · simp [hreserved]
      · rw [TokenKind.operator.injEq, and_iff_left ⟨hk, hnone⟩, eq_comm]
      · simp [hk]
    · simp only [if_neg hk]
      refine ⟨fun s => ?_, fun name => ?_, fun name => ?_⟩
      · simp [hreserved]
      · simp [hk]
      · rw [TokenKind.identifier.injEq, and_iff_left ⟨hk, hnone⟩, eq_comm]

/-- The tail of a word goes on as far as it can. -/
theorem Lexer.wordTail_maximal {k : WordClass} {ahead rest : List Char}
    (h : ahead = wordTail k ahead ++ rest) :
    (∀ c ∈ wordTail k ahead, IsWordChar k c) ∧ EndsWord k rest := by
  induction ahead with
  | nil =>
    obtain rfl : [] = rest := h
    exact ⟨by simp [wordTail], by simp [EndsWord]⟩
  | cons c ahead ih =>
    have hstop (hnil : wordTail k (c :: ahead) = []) (hends : EndsWord k (c :: ahead)) :
        (∀ d ∈ wordTail k (c :: ahead), IsWordChar k d) ∧ EndsWord k rest := by
      rw [hnil] at h ⊢
      obtain rfl : c :: ahead = rest := h
      exact ⟨by simp, hends⟩
    by_cases hend : isBlank c || isReserved c
    · refine hstop (by rw [wordTail, if_pos hend]) ?_
      rintro _ ⟨⟩
      exact (Bool.or_eq_true _ _ ▸ hend).imp id .inl
    by_cases hdot : c = '.' ∧ (startsWithLetter ahead ∨ startsWithDigit ahead)
    · refine hstop (by rw [wordTail, if_neg hend, if_pos hdot]) ?_
      rintro _ ⟨⟩
      exact .inr (.inr (.inr hdot))
    by_cases hclass : WordClass.of? c = some k
    · have htail : wordTail k (c :: ahead) = c :: wordTail k ahead := by
        rw [wordTail, if_neg hend, if_neg hdot, if_pos hclass]
      rw [htail] at h ⊢
      obtain ⟨hchars, hends⟩ := ih (List.cons.inj h).2
      simp only [Bool.or_eq_true, not_or, Bool.not_eq_true] at hend
      exact ⟨List.forall_mem_cons.mpr ⟨⟨hend.1, hend.2, hclass⟩, hchars⟩, hends⟩
    · refine hstop (by rw [wordTail, if_neg hend, if_neg hdot, if_neg hclass]) ?_
      rintro _ ⟨⟩
      exact .inr (.inr (.inl hclass))

/-! ### The invariant of the lexer -/

namespace TokenKind

/-- A name, or a reserved word or operator. -/
def isWord : TokenKind → Bool
  | symbol s     => s ∈ Symbol.words
  | identifier _ => true
  | operator _   => true
  | _            => false

theorem isWord_wordKind (k : WordClass) (word : String) : (wordKind k word).isWord := by
  rcases wordKind_cases k word with ⟨s, hs, -, hk⟩ | hk | hk
  · rw [hk]
    exact decide_eq_true hs
  · rw [hk]
    rfl
  · rw [hk]
    rfl

theorem isWord_of_ofChar? {c : Char} {s : Symbol} (h : Symbol.ofChar? c = some s) :
    (symbol s).isWord = false ∧ symbol s ≠ symbol .dotAccess := by
  rw [Symbol.ofChar?] at h
  repeat' split at h
  all_goals first
    | cases h
      exact ⟨rfl, by decide⟩
    | cases h

end TokenKind

/-- How a token stands behind the one before it, if it is a word or the dot of a member access. -/
structure Stands (source : List Char) (before? : Option Token) (t : Token) : Prop where
  word : t.kind.isWord → ∃ k c tail rest, t.span.Reads source (c :: tail) rest ∧
    t.kind = wordKind k (String.ofList (c :: tail)) ∧ WordClass.of? c = some k ∧
    (∀ d ∈ tail, IsWordChar k d) ∧ EndsWord k rest
  access : t.kind = .symbol .dotAccess →
    (∃ u ∈ before?, u.kind.isWord ∧ u.span.stop = t.span.start) ∧
      ∃ rest, t.span.Reads source ['.'] rest ∧ startsWithLetter rest

/-- How tokens stand one behind another, the latest one first. -/
def Standing (source : List Char) : List Token → Prop
  | []           => True
  | t :: earlier => Stands source earlier.head? t ∧ Standing source earlier

namespace Standing

variable {source : List Char} {t : Token} {later earlier : List Token}

theorem stands (h : Standing source (later ++ t :: earlier)) : Stands source earlier.head? t := by
  induction later with
  | nil => exact h.1
  | cons u later ih => exact ih h.2

theorem cons (ht : t.kind.isWord = false) (hdot : t.kind ≠ .symbol .dotAccess)
    (h : Standing source earlier) : Standing source (t :: earlier) :=
  ⟨⟨fun hword => absurd hword (by simp [ht]), fun h => absurd h hdot⟩, h⟩

end Standing

namespace Lexer

variable {named? : String → Option Char} {source : List Char} {s t : Lexer}

/-- What holds between two moves: the words and member accesses that have been read stand as they
should. -/
structure Words (source : List Char) (s : Lexer) : Prop where
  resting : s.Resting source
  standing : Standing source s.tokens

theorem Words.move (h : s.Words source) (hmove : Move named? s t) : t.Words source := by
  refine ⟨h.resting.move hmove, ?_⟩
  have hstanding := h.standing
  cases hmove with
  | join hahead htokens hlast =>
    rw [htokens] at hstanding
    exact hstanding.2
  | feed | blank | lineComment | blockComment => exact hstanding
  | lineBreak | indentation | number | character | text => exact hstanding.cons rfl nofun
  | @word k c ahead rest hahead hrest hc =>
    obtain ⟨htail, hends⟩ := wordTail_maximal hrest
    have hreads : (s.spanOf (c :: wordTail k ahead)).Reads source (c :: wordTail k ahead) rest :=
      h.resting.at.reads_spanOf (hahead.trans (congrArg (c :: ·) hrest))
    exact ⟨⟨fun _ => ⟨k, c, wordTail k ahead, rest, hreads, rfl, hc, htail, hends⟩,
      fun hdot => absurd hdot (TokenKind.wordKind_ne_dotAccess k _)⟩, hstanding⟩
  | @dotAccess last rest hahead hletter hlast hstop hword =>
    obtain ⟨k, w, hword⟩ := hword
    have hlastWord : last.kind.isWord := hword ▸ TokenKind.isWord_wordKind k w
    exact ⟨⟨nofun, fun _ => ⟨⟨last, hlast, hlastWord, hstop⟩, rest,
      h.resting.at.reads_spanOf hahead, hletter⟩⟩, hstanding⟩
  | openBracket hahead hc | separator hahead hc =>
    obtain ⟨hword, hdot⟩ := TokenKind.isWord_of_ofChar? hc
    exact hstanding.cons hword hdot
  | closeBracket hahead hc =>
    obtain ⟨hword, hdot⟩ := TokenKind.isWord_of_ofChar? hc
    exact ((tokens_close s _).symm ▸ hstanding).cons hword hdot
  | firstSegment => exact .cons rfl nofun (.cons rfl nofun hstanding)
  | lastSegment =>
    exact .cons rfl nofun (.cons rfl nofun ((tokens_close s _).symm ▸ hstanding))
  | innerSegment =>
    exact .cons rfl nofun (.cons rfl nofun (.cons rfl nofun ((tokens_close s _).symm ▸ hstanding)))

end Lexer

/-! ### Whole texts -/

theorem standing_of_lexWith {named? : String → Option Char} {source : String} {tokens : List Token}
    (h : lexWith named? source = .ok tokens) : Standing source.toList tokens.reverse := by
  have hstart : (Lexer.ofText source.toList).Words source.toList :=
    ⟨Lexer.resting_ofText _, trivial⟩
  obtain ⟨s, hwords, -, hfinish⟩ :=
    Lexer.run_preserves (fun _ _ hs hmove => hs.move hmove) hstart h
  rw [Lexer.finish] at hfinish
  split at hfinish
  · cases hfinish
  · cases hfinish
    rw [List.reverse_append, List.reverse_reverse]
    exact .cons rfl (by simp) hwords.standing

/-- Nothing else starts as a word that has been read. -/
theorem TokenKind.startsWord_of_legible {named? : String → Option Char} {kind : TokenKind}
    {c : Char} {tail : List Char} (h : kind.Legible named?) (hword : kind.isWord)
    (hspelled : kind.SpelledBy (c :: tail)) : Lexer.StartsWord c tail := by
  cases kind with
  | symbol s =>
    cases s
    case asWord | dataWord | importWord | moduleWord | atSign | backslash | colon | doubleColon |
        equals | thinArrowLeft | thinArrowRight | verticalBar | wideArrowRight =>
      simp [SpelledBy, Symbol.spelling, Symbol.name] at hspelled
      obtain ⟨rfl, rfl⟩ := hspelled
      constructor <;> decide +kernel
    all_goals cases hword
  | identifier name =>
    obtain ⟨k, d, more, hstart, hk⟩ := h
    have hspelled' : (identifier name).SpelledBy (d :: more) :=
      hk ▸ spelledBy_wordKind k (d :: more)
    obtain ⟨rfl, rfl⟩ := List.cons.inj (hspelled.trans hspelled'.symm)
    exact hstart.toStartsWord
  | operator name =>
    obtain ⟨k, d, more, hstart, hk⟩ := h
    have hspelled' : (operator name).SpelledBy (d :: more) :=
      hk ▸ spelledBy_wordKind k (d :: more)
    obtain ⟨rfl, rfl⟩ := List.cons.inj (hspelled.trans hspelled'.symm)
    exact hstart.toStartsWord
  | _ => cases hword

theorem Lexer.StartsWord.maximalWord {k : WordClass} {c : Char} {tail rest : List Char}
    (h : StartsWord c tail) (hc : WordClass.of? c = some k) (htail : ∀ d ∈ tail, IsWordChar k d)
    (hends : EndsWord k rest) : MaximalWord k (c :: tail) rest where
  ne_nil := List.cons_ne_nil c tail
  chars := List.forall_mem_cons.mpr ⟨⟨h.notBlank, h.notReserved, hc⟩, htail⟩
  notDigit := h.notDigit
  notLineComment hcomment := by
    obtain ⟨rfl, more, rfl⟩ := List.cons_prefix_cons.mp hcomment
    exact h.notLineComment ⟨rfl, rfl⟩
  notBlockComment hcomment := by
    obtain ⟨rfl, more, rfl⟩ := List.cons_prefix_cons.mp hcomment
    exact h.notBlockComment ⟨rfl, rfl⟩
  ends := hends

/-- A word starts with a letter if its token does, and only words do. -/
theorem TokenKind.isWord_of_startsWithLetter {kind : TokenKind} (h : kind.startsWithLetter) :
    kind.isWord := by
  cases kind with
  | symbol s => cases s <;> first | rfl | exact absurd h (by decide +kernel)
  | identifier _ => rfl
  | operator _ => rfl
  | _ => cases h

/-- Trivia does not start with a letter. -/
theorem Trivia.eq_nil_of_startsWithLetter {gap rest : List Char} (h : Trivia gap rest)
    (hletter : startsWithLetter (gap ++ rest)) : gap = [] := by
  cases h with
  | nil => rfl
  | blank hc => simp [Text.isBlank_eq_false_of_isAlphabetic hletter] at hc
  | lineComment | blockComment =>
    exact absurd (show Text.isAlphabetic '/' from hletter) (by decide +kernel)
  | join => exact absurd (show Text.isAlphabetic '\\' from hletter) (by decide +kernel)

/-- How the words of a source text are cut, what they stand for, and how member accesses join
them. -/
structure Worded (source : List Char) (tokens : List Token) : Prop where
  /-- The token of a word spans the whole word, and its kind is what the word stands for. -/
  words : ∀ t ∈ tokens, t.kind.isWord → ∃ k text rest, t.span.Reads source text rest ∧
    MaximalWord k text rest ∧ t.kind.StandsFor k (String.ofList text)
  /-- The dot of a member access lies between two words without a gap, and the second one starts
  with a letter. -/
  accesses : ∀ before t after, tokens = before ++ t :: after → t.kind = .symbol .dotAccess →
    (∃ u ∈ before.getLast?, u.kind.isWord ∧ u.span.stop = t.span.start) ∧
      ∃ u ∈ after.head?, u.kind.isWord ∧ u.span.start = t.span.stop ∧
        ∃ text rest, u.span.Reads source text rest ∧ startsWithLetter text

section

variable {named? : String → Option Char} {source : String} {tokens before after : List Token}
  {t : Token} (h : lexWith named? source = .ok tokens)
include h

theorem stands_of_lexWith (hsplit : tokens = before ++ t :: after) :
    Stands source.toList before.getLast? t := by
  have hstanding := standing_of_lexWith h
  have hreverse : tokens.reverse = after.reverse ++ t :: before.reverse := by simp [hsplit]
  rw [hreverse] at hstanding
  simpa using hstanding.stands

/-- The token of a word spans the whole word. -/
theorem exists_maximalWord (ht : t ∈ tokens) (hword : t.kind.isWord) :
    ∃ k text rest, t.span.Reads source.toList text rest ∧ MaximalWord k text rest ∧
      t.kind = wordKind k (String.ofList text) := by
  obtain ⟨before, after, hsplit⟩ := List.append_of_mem ht
  obtain ⟨k, c, tail, rest, hreads, hkind, hc, htail, hends⟩ :=
    (stands_of_lexWith h hsplit).word hword
  have hspelled : t.kind.SpelledBy (c :: tail) :=
    hkind ▸ TokenKind.spelledBy_wordKind k (c :: tail)
  have hstart := TokenKind.startsWord_of_legible ((legible_of_lexWith h).1 t ht) hword hspelled
  exact ⟨k, c :: tail, rest, hreads, hstart.maximalWord hc htail hends, hkind⟩

/-- A word that starts with a letter stands behind the dot of a member access. -/
theorem exists_member (hsplit : tokens = before ++ t :: after) (ht : t.kind = .symbol .dotAccess) :
    ∃ u later, after = u :: later ∧ u.kind.startsWithLetter := by
  have hafter : after ≠ [] := by
    rintro rfl
    obtain ⟨init, hend, -⟩ := (tiling_of_lexWith h).endOfInput
    have hlast := congrArg List.getLast? (hsplit.symm.trans hend)
    simp only [List.getLast?_concat, Option.some.injEq] at hlast
    rw [hlast] at ht
    cases ht
  obtain ⟨u, later, rfl⟩ := List.exists_cons_of_ne_nil hafter
  have hchain := (legible_of_lexWith h).2
  rw [hsplit] at hchain
  exact ⟨u, later, rfl, (List.isChain_append_cons_cons.mp hchain).2.1.letter ht⟩

/-- There is no gap behind the dot of a member access. -/
theorem start_eq_of_dotAccess {u : Token} (hsplit : tokens = before ++ t :: u :: after)
    (ht : t.kind = .symbol .dotAccess) : u.span.start = t.span.stop := by
  obtain ⟨-, rest, hreads, hletter⟩ := (stands_of_lexWith h hsplit).access ht
  obtain ⟨gap, more, hgapReads, hgap⟩ := (tiling_of_lexWith h).gaps before t u after hsplit
  rw [hreads.rest_eq hgapReads] at hletter
  obtain rfl := hgap.eq_nil_of_startsWithLetter hletter
  obtain ⟨read, -, hspan⟩ := hgapReads
  obtain ⟨hstop, hstart⟩ := Span.mk.inj hspan
  exact hstart.trans hstop.symm

/-- The words of every text that the lexer accepts are as long as they can be, what they stand for
is decided by their text and class, and each member access joins two of them. -/
theorem worded_of_lexWith : Worded source.toList tokens where
  words t ht hword := by
    obtain ⟨k, text, rest, hreads, hmaximal, hkind⟩ := exists_maximalWord h ht hword
    exact ⟨k, text, rest, hreads, hmaximal, hkind ▸ TokenKind.standsFor_wordKind k _⟩
  accesses before t after hsplit ht := by
    obtain ⟨hbefore, -⟩ := (stands_of_lexWith h hsplit).access ht
    obtain ⟨u, later, rfl, hletter⟩ := exists_member h hsplit ht
    have hword := TokenKind.isWord_of_startsWithLetter hletter
    obtain ⟨k, text, rest, hreads, -, hkind⟩ := exists_maximalWord h (by simp [hsplit]) hword
    rw [hkind, TokenKind.startsWithLetter_wordKind] at hletter
    exact ⟨hbefore, u, rfl, hword, start_eq_of_dotAccess h hsplit ht, text, rest, hreads, hletter⟩

end

/-- A member access, and a reserved word behind an operator. -/
theorem worded_memberAccess :
    let tokens : List Token :=
      [⟨.identifier "x", ⟨0, 0, 0⟩, ⟨1, 0, 1⟩⟩, ⟨.symbol .dotAccess, ⟨1, 0, 1⟩, ⟨2, 0, 2⟩⟩,
        ⟨.identifier "y", ⟨2, 0, 2⟩, ⟨3, 0, 3⟩⟩, ⟨.operator "+", ⟨3, 0, 3⟩, ⟨4, 0, 4⟩⟩,
        ⟨.symbol .asWord, ⟨4, 0, 4⟩, ⟨6, 0, 6⟩⟩, ⟨.endOfInput, ⟨6, 0, 6⟩, ⟨6, 0, 6⟩⟩]
    lex "x.y+as" = .ok tokens ∧ Worded "x.y+as".toList tokens := by
  intro tokens
  have h : lex "x.y+as" = .ok tokens := by decide +kernel
  exact ⟨h, worded_of_lexWith h⟩

end Frontend
