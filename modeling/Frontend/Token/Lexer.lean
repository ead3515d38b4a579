import Frontend.Source.Cursor
import Frontend.Text.Alphabetic
import Frontend.Text.Blank
import Frontend.Token.Basic
import Frontend.Token.Fault
import Frontend.Token.Literal
import Frontend.Token.Number

/-!
# Reading tokens

`lex` cuts a source text into tokens, the last of which marks its end, or names the first fault.

Line breaks and the indentation of lines are tokens outside of brackets. A line that ends in a
backslash is joined with the next one: neither the backslash nor the line break is a token then.

An expression inside of a text literal splits the literal into segments. Its tokens stand between
an opening and a closing symbol, and the bracket that closes it is told from other brackets by the
stack of open brackets.
-/

namespace Frontend

/-! ### Brackets -/

/-- The kinds of brackets that may be open. -/
inductive BracketKind where
  | round
  | square
  | curly
  /-- The bracket of an expression inside of a text literal. -/
  | interpolation
deriving DecidableEq, Repr

/-- An open bracket. The span of an interpolation is that of the opening quote of its literal. -/
structure OpenBracket where
  kind : BracketKind
  span : Span
deriving DecidableEq, Repr

/-- The kind of bracket that a symbol opens. -/
def Symbol.opens? : Symbol → Option BracketKind
  | .openRound  => some .round
  | .openSquare => some .square
  | .openCurly  => some .curly
  | _           => none

/-- The kind of bracket that a symbol closes. -/
def Symbol.closes? : Symbol → Option BracketKind
  | .closeRound  => some .round
  | .closeSquare => some .square
  | .closeCurly  => some .curly
  | _            => none

/-! ### The state of reading -/

/-- How far a source text has been read. -/
structure Lexer where
  cursor : Cursor
  /-- The tokens read so far, the latest first. -/
  tokens : List Token
  /-- The open brackets, the innermost first. -/
  brackets : List OpenBracket
deriving DecidableEq, Repr

namespace Lexer

/-- Nothing has been read yet. -/
def ofText (text : List Char) : Lexer := ⟨.ofText text, [], []⟩

/-- The text that is still to be read. -/
abbrev ahead (s : Lexer) : List Char := s.cursor.ahead

/-- The span of a text that lies directly ahead. -/
def spanOf (s : Lexer) (text : List Char) : Span := .ofText s.cursor.position text

/-- Pass a text that is not a token. -/
def skip (s : Lexer) (text : List Char) : Lexer := { s with cursor := s.cursor.pass text }

/-- Pass a text that is a token of the given kind. -/
def emit (s : Lexer) (kind : TokenKind) (text : List Char) : Lexer :=
  { s with cursor := s.cursor.pass text, tokens := ⟨kind, s.spanOf text⟩ :: s.tokens }

/-- Open a bracket. -/
def push (s : Lexer) (kind : BracketKind) (span : Span) : Lexer :=
  { s with brackets := ⟨kind, span⟩ :: s.brackets }

/-- Close the innermost bracket if it is of the given kind. Others are left to the parser. -/
def close (s : Lexer) (kind : BracketKind) : Lexer :=
  match s.brackets with
  | b :: rest => if b.kind = kind then { s with brackets := rest } else s
  | []        => s

/-- The innermost bracket is of the language itself: the layout has no meaning. -/
def inBrackets (s : Lexer) : Bool :=
  match s.brackets with
  | b :: _ => b.kind != .interpolation
  | []     => false

/-- The last token is of the given kind. -/
def lastIs (s : Lexer) (kind : TokenKind) : Bool := s.tokens.head?.any (·.kind == kind)

/-- A line starts here whose indentation has a meaning. -/
def atLineStart (s : Lexer) : Bool :=
  s.cursor.position.column == 0 && !s.inBrackets && (s.tokens.isEmpty || s.lastIs .lineBreak)

/-! ### Layout and reserved characters -/

/-- Read a line feed. -/
def lineBreak (s : Lexer) : Lexer :=
  if s.lastIs (.symbol .backslash) then { s.skip ['\n'] with tokens := s.tokens.tail }
  else if s.inBrackets then s.skip ['\n']
  else s.emit .lineBreak ['\n']

/-- A character of an indentation. -/
def isIndent (c : Char) : Bool := c == ' ' || c == '\t'

/-- Read the spaces and tabs at the start of a line. -/
def indentation (s : Lexer) : Lexer :=
  let blanks := s.ahead.takeWhile isIndent
  s.emit (.indentation (String.ofList blanks)) blanks

/-- Read a character that is a symbol by itself. -/
def reserved (s : Lexer) (symbol : Symbol) (c : Char) : Lexer :=
  let opened := match symbol.opens? with
    | some kind => s.push kind (s.spanOf [c])
    | none      => s
  let closed := match symbol.closes? with
    | some kind => opened.close kind
    | none      => opened
  closed.emit (.symbol symbol) [c]

/-! ### Literals -/

/-- Read a number. -/
def number (s : Lexer) : Except LexicalError Lexer :=
  match Number.read s.ahead with
  | .ok text                   => .ok (s.emit (.number (String.ofList text)) text)
  | .error (.finalDot text)    => .error ⟨.finalDot, .empty (s.cursor.position.after text)⟩
  | .error (.severalDots text) =>
    .error ⟨.severalDots, .ofText (s.cursor.position.after text) ['.']⟩

variable (named? : String → Option Char)

/-- Read a segment of the text literal whose opening quote has the given span. What belongs to the
token before the segment, the opening quote or nothing, is `lead`. -/
def segment (s : Lexer) (lead : List Char) (quote : Span) : Except LexicalError Lexer :=
  let segment := Segment.read named? (s.ahead.drop lead.length)
  let read := s.emit (.text (String.ofList segment.content)) (lead ++ segment.text)
  match segment.ending with
  | .quote         => .ok read
  | .interpolation =>
    .ok ((read.emit (.symbol .interpolationOpen) ['$', '\x7b']).push .interpolation quote)
  | .missing       => .error ⟨.unterminatedText, quote⟩

/-- Read a text literal, or its first segment. -/
def text (s : Lexer) : Except LexicalError Lexer := s.segment named? ['"'] (s.spanOf ['"'])

/-- Read the bracket that closes an interpolation and the segment behind it. -/
def resume (s : Lexer) (quote : Span) : Except LexicalError Lexer :=
  let closed := (s.close .interpolation).emit (.symbol .interpolationClose) ['\x7d']
  closed.segment named? [] quote

/-- Read a character literal. -/
def character (s : Lexer) : Except LexicalError Lexer :=
  let rest := s.ahead.tail
  let missing : LexicalError := ⟨.unterminatedCharacter, s.spanOf ['\'']⟩
  match CharacterBody.read? named? rest with
  | none      => .error missing
  | some body =>
    if (rest.drop body.text.length).head? = some '\'' then
      .ok (s.emit (.character (String.ofList body.content)) ('\'' :: body.text ++ ['\'']))
    else .error missing

/-! ### Words and comments -/

/-- A text that begins with a decimal digit. -/
def startsWithDigit (text : List Char) : Bool := text.head?.any Char.isDigit

/-- A text that begins with an alphabetic character. -/
def startsWithLetter (text : List Char) : Bool := text.head?.any Text.isAlphabetic

/-- The characters that continue a word of a class. A word ends before a blank, a reserved
character, a character of another class, and a dot that a letter or a digit follows. -/
def wordTail (k : WordClass) : List Char → List Char
  | []        => []
  | c :: rest =>
    if Text.isBlank c || isReserved c then []
    else if c = '.' ∧ (startsWithLetter rest ∨ startsWithDigit rest) then []
    else if WordClass.of? c = some k then c :: wordTail k rest
    else []

/-- What a word of a class stands for. -/
def wordKind (k : WordClass) (word : String) : TokenKind :=
  match Symbol.ofWord? word with
  | some symbol => .symbol symbol
  | none        => if k = .symbolic then .operator word else .identifier word

/-- Read what directly follows a word: the dot of a member access, or a number. -/
def afterWord (s : Lexer) : Except LexicalError Lexer :=
  match s.ahead with
  | '.' :: rest =>
    if startsWithLetter rest then .ok (s.emit (.symbol .dotAccess) ['.'])
    else if startsWithDigit rest then s.number
    else .ok s
  | _           => .ok s

/-- Read a word that begins with the given character. -/
def word (s : Lexer) (c : Char) (rest : List Char) : Except LexicalError Lexer :=
  match WordClass.of? c with
  | none   => .error ⟨.illegalCharacter c, s.spanOf [c]⟩
  | some k =>
    let word := c :: wordTail k rest
    (s.emit (wordKind k (String.ofList word)) word).afterWord

/-- The rest of a block comment behind its opening, if it is closed. -/
def commentBody? : List Char → Option (List Char)
  | []        => none
  | c :: rest =>
    if c = '*' ∧ rest.head? = some '/' then some ['*', '/']
    else (commentBody? rest).map (c :: ·)

/-- Read a line comment up to the end of the line. -/
def lineComment (s : Lexer) : Lexer := s.skip (s.ahead.takeWhile (· != '\n'))

/-- Read a block comment. -/
def blockComment (s : Lexer) : Except LexicalError Lexer :=
  match commentBody? (s.ahead.drop 2) with
  | some body => .ok (s.skip ('/' :: '*' :: body))
  | none      => .error ⟨.unterminatedComment, s.spanOf ['/', '*']⟩

/-! ### All tokens -/

/-- Read on from the character `c`, which the text `rest` follows. -/
def step (s : Lexer) (c : Char) (rest : List Char) : Except LexicalError Lexer :=
  if c = '\n' then .ok s.lineBreak
  else if isIndent c ∧ s.atLineStart then .ok s.indentation
  else if Text.isBlank c then .ok (s.skip [c])
  else if c = '"' then s.text named?
  else if c = '\'' then s.character named?
  else if c.isDigit ∨ c = '.' ∧ startsWithDigit rest then s.number
  else if c = '/' ∧ rest.head? = some '/' then .ok s.lineComment
  else if c = '/' ∧ rest.head? = some '*' then s.blockComment
  else match s.brackets, Symbol.ofChar? c with
    | ⟨.interpolation, quote⟩ :: _, some .closeCurly => s.resume named? quote
    | _, some symbol                                 => .ok (s.reserved symbol c)
    | _, none                                        => s.word c rest

/-- The tokens of a source text that has been read to its end. -/
def finish (s : Lexer) : Except LexicalError (List Token) :=
  match s.brackets.find? (·.kind == .interpolation) with
  | some b => .error ⟨.unterminatedText, b.span⟩
  | none   => .ok (s.tokens.reverse ++ [⟨.endOfInput, .empty s.cursor.position⟩])

/-! ### Progress -/

theorem length_ahead_skip (s : Lexer) (text : List Char) :
    (s.skip text).ahead.length = s.ahead.length - text.length := by
  simp [ahead, skip, Cursor.pass]

theorem length_ahead_emit (s : Lexer) (kind : TokenKind) (text : List Char) :
    (s.emit kind text).ahead.length = s.ahead.length - text.length := by
  simp [ahead, emit, Cursor.pass]

theorem ahead_push (s : Lexer) (kind : BracketKind) (span : Span) :
    (s.push kind span).ahead = s.ahead := rfl

theorem ahead_close (s : Lexer) (kind : BracketKind) : (s.close kind).ahead = s.ahead := by
  unfold close
  split
  · split <;> rfl
  · rfl

private theorem length_lineBreak (s : Lexer) :
    s.lineBreak.ahead.length = s.ahead.length - 1 := by
  unfold lineBreak
  split
  · exact length_ahead_skip s ['\n']
  · split
    · exact length_ahead_skip s ['\n']
    · exact length_ahead_emit s .lineBreak ['\n']

private theorem length_reserved (s : Lexer) (symbol : Symbol) (c : Char) :
    (s.reserved symbol c).ahead.length = s.ahead.length - 1 := by
  cases symbol <;>
    simp [reserved, Symbol.opens?, Symbol.closes?, length_ahead_emit, ahead_push, ahead_close]

private theorem length_number_le {s t : Lexer} (h : s.number = .ok t) :
    t.ahead.length ≤ s.ahead.length := by
  unfold number at h
  split at h
  · cases h
    rw [length_ahead_emit]
    omega
  · cases h
  · cases h

theorem number_read_ne_nil {c : Char} {rest text : List Char}
    (hc : c.isDigit ∨ c = '.') (h : Number.read (c :: rest) = .ok text) : text ≠ [] := by
  rintro rfl
  rcases hc with hc | rfl
  · simp only [Number.read, List.takeWhile_cons, hc] at h
    split at h
    · split at h
      · cases h
      · split at h <;> simp at h
    · simp at h
  · simp only [Number.read, List.takeWhile_cons] at h
    simp at h
    split at h
    · cases h
    · split at h <;> simp at h

private theorem length_number_lt {s t : Lexer} {c : Char} {rest : List Char}
    (ha : s.ahead = c :: rest) (hc : c.isDigit ∨ c = '.') (h : s.number = .ok t) :
    t.ahead.length < s.ahead.length := by
  unfold number at h
  split at h
  · next text hr =>
    cases h
    rw [ha] at hr
    have := List.length_pos_iff.mpr (number_read_ne_nil hc hr)
    rw [length_ahead_emit, ha]
    simp only [List.length_cons]
    omega
  · cases h
  · cases h

private theorem length_segment {s t : Lexer} {lead : List Char} {quote : Span}
    (h : s.segment named? lead quote = .ok t) :
    t.ahead.length ≤ s.ahead.length - lead.length := by
  unfold segment at h
  simp only at h
  split at h
  · cases h
    rw [length_ahead_emit]
    simp only [List.length_append]
    omega
  · cases h
    rw [ahead_push, length_ahead_emit, length_ahead_emit]
    simp only [List.length_append]
    omega
  · cases h

private theorem length_character {s t : Lexer} (h : s.character named? = .ok t) :
    t.ahead.length ≤ s.ahead.length - 1 := by
  unfold character at h
  simp only at h
  split at h
  · cases h
  · split at h
    · cases h
      rw [length_ahead_emit]
      simp only [List.length_cons, List.length_append]
      omega
    · cases h

private theorem length_afterWord {s t : Lexer} (h : s.afterWord = .ok t) :
    t.ahead.length ≤ s.ahead.length := by
  unfold afterWord at h
  split at h
  · split at h
    · cases h
      rw [length_ahead_emit]
      omega
    · split at h
      · exact length_number_le h
      · cases h
        exact Nat.le_refl _
  · cases h
    exact Nat.le_refl _

private theorem length_word {s t : Lexer} {c : Char} {rest : List Char}
    (h : s.word c rest = .ok t) : t.ahead.length ≤ s.ahead.length - 1 := by
  unfold word at h
  split at h
  · cases h
  · have := length_afterWord h
    rw [length_ahead_emit] at this
    simp only [List.length_cons] at this
    omega

private theorem length_blockComment {s t : Lexer} (h : s.blockComment = .ok t) :
    t.ahead.length ≤ s.ahead.length - 1 := by
  unfold blockComment at h
  split at h
  · cases h
    rw [length_ahead_skip]
    simp only [List.length_cons]
    omega
  · cases h

/-- A step reads at least one character. -/
theorem length_step {s t : Lexer} {c : Char} {rest : List Char} (ha : s.ahead = c :: rest)
    (h : s.step named? c rest = .ok t) : t.ahead.length < s.ahead.length := by
  have hpos : 0 < s.ahead.length := by simp [ha]
  unfold step at h
  split at h
  · cases h
    rw [length_lineBreak]
    omega
  · split at h
    · next hi =>
      cases h
      rw [indentation, length_ahead_emit, ha, List.takeWhile_cons, if_pos hi.1]
      simp only [List.length_cons]
      omega
    · split at h
      · cases h
        rw [length_ahead_skip]
        simp only [List.length_singleton]
        omega
      · split at h
        · have := length_segment named? h
          simp only [List.length_singleton] at this
          omega
        · split at h
          · have := length_character named? h
            omega
          · split at h
            · next hn => exact length_number_lt ha (hn.imp id And.left) h
            · split at h
              · next hs =>
                cases h
                rw [lineComment, length_ahead_skip, ha, hs.1, List.takeWhile_cons,
                  if_pos (by decide)]
                simp only [List.length_cons]
                omega
              · split at h
                · have := length_blockComment h
                  omega
                · split at h
                  · have := length_segment named? h
                    rw [length_ahead_emit, ahead_close] at this
                    simp only [List.length_singleton, List.length_nil] at this
                    omega
                  · cases h
                    rw [length_reserved]
                    omega
                  · have := length_word h
                    omega

/-- The tokens of what is ahead, behind the tokens read so far. -/
def run (s : Lexer) : Except LexicalError (List Token) :=
  match _ha : s.ahead with
  | []        => s.finish
  | c :: rest =>
    match _hs : s.step named? c rest with
    | .error e => .error e
    | .ok t    => t.run
termination_by s.ahead.length
decreasing_by exact length_step named? ‹_› ‹_›

end Lexer

/-- Cut a source text into tokens. The names of characters are looked up with `named?`. -/
def lexWith (named? : String → Option Char) (source : String) :
    Except LexicalError (List Token) :=
  (Lexer.ofText source.toList).run named?

/-- Cut a source text into tokens. -/
def lex (source : String) : Except LexicalError (List Token) :=
  lexWith CharacterName.find? source

end Frontend
