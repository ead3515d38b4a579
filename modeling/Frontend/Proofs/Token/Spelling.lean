import Frontend.Proofs.Token.Kind
import Frontend.Proofs.Token.Scanning

/-!
# How tokens are written

`TokenKind.SpelledBy` says how a token is written in a source text, `TokenKind.Fits` how it fits
between its neighbours, and `Trivia` what may stand between two tokens.
-/

namespace Frontend

/-! ### Spellings -/

/-- The characters of a symbol. -/
def Symbol.spelling : Symbol → List Char
  | interpolationOpen  => ['$', '\x7b']
  | interpolationClose => ['\x7d']
  | dotAccess          => ['.']
  | s                  => s.name.toList

theorem Symbol.spelling_of_ofChar? {c : Char} {symbol : Symbol} (h : ofChar? c = some symbol) :
    symbol.spelling = [c] := by
  have hname := congrArg String.toList (name_of_ofChar? h)
  rw [String.toList_ofList] at hname
  rw [← hname]
  cases symbol
  case interpolationOpen | interpolationClose | dotAccess =>
    simp [name] at hname
  all_goals rfl

theorem Symbol.spelling_of_ofWord? {word : String} {symbol : Symbol}
    (h : ofWord? word = some symbol) : symbol.spelling = word.toList := by
  have hmem : symbol ∈ words := List.mem_of_find?_eq_some h
  rw [← name_of_ofWord? h]
  cases symbol
  case interpolationOpen | interpolationClose | dotAccess => exact absurd hmem (by decide)
  all_goals rfl

namespace TokenKind

/-- The text of a token: its symbol or payload, a line feed, a literal on one line, or nothing. -/
def SpelledBy (text : List Char) : TokenKind → Prop
  | symbol s           => text = s.spelling
  | identifier name    => text = name.toList
  | operator name      => text = name.toList
  | number digits      => text = digits.toList
  | indentation blanks => text = blanks.toList
  | lineBreak          => text = ['\n']
  | TokenKind.text _   => '\n' ∉ text
  | character _        => '\n' ∉ text
  | endOfInput         => text = []

/-- A token between its neighbours. A text literal lacks the opening quote directly behind an
interpolation and, unless it is complete, the closing one. All other tokens are complete and do not
stand directly behind an interpolation. -/
def Fits (before? : Option TokenKind) (complete : Bool) (text : List Char) : TokenKind → Prop
  | TokenKind.text _ => ∃ body,
      text = (if before? = some (.symbol .interpolationClose) then [] else ['"']) ++ body ++
        (if complete then ['"'] else [])
  | character _      =>
      before? ≠ some (.symbol .interpolationClose) ∧ complete = true ∧
        ∃ body, text = ['\''] ++ body ++ ['\'']
  | _                => before? ≠ some (.symbol .interpolationClose) ∧ complete = true

theorem isText_of_fits_false {k : TokenKind} {before? : Option TokenKind} {text : List Char}
    (h : k.Fits before? false text) : k.isText := by
  cases k <;> first | rfl | simp [Fits] at h

theorem isText_of_fits_interpolationClose {k : TokenKind} {complete : Bool} {text : List Char}
    (h : k.Fits (some (.symbol .interpolationClose)) complete text) : k.isText := by
  cases k <;> first | rfl | simp [Fits] at h

/-- Neither a literal nor a bracket of an interpolation nor the end of input. -/
def isPlain : TokenKind → Bool
  | symbol s         => s != .interpolationOpen && s != .interpolationClose
  | TokenKind.text _ => false
  | character _      => false
  | endOfInput       => false
  | _                => true

theorem isPlain_of_ofChar? {c : Char} {symbol : Symbol} (h : Symbol.ofChar? c = some symbol) :
    (TokenKind.symbol symbol).isPlain := by
  have hname := congrArg String.toList (Symbol.name_of_ofChar? h)
  cases symbol
  case interpolationOpen | interpolationClose => simp [Symbol.name] at hname
  all_goals rfl

/-- A word stands for a reserved symbol or for a name. -/
theorem wordKind_cases (k : WordClass) (word : String) :
    (∃ symbol ∈ Symbol.words, Symbol.ofWord? word = some symbol ∧
        Lexer.wordKind k word = .symbol symbol) ∨
      Lexer.wordKind k word = .identifier word ∨ Lexer.wordKind k word = .operator word := by
  rw [Lexer.wordKind]
  split
  · next symbol h => exact .inl ⟨symbol, List.mem_of_find?_eq_some h, h, rfl⟩
  · right
    split
    · exact .inr rfl
    · exact .inl rfl

theorem isPlain_wordKind (k : WordClass) (word : String) : (Lexer.wordKind k word).isPlain := by
  have hwords : ∀ s ∈ Symbol.words, (symbol s).isPlain := by decide
  rcases wordKind_cases k word with ⟨s, hs, -, hk⟩ | hk | hk
  · rw [hk]
    exact hwords s hs
  · rw [hk]
    rfl
  · rw [hk]
    rfl

theorem spelledBy_wordKind (k : WordClass) (word : List Char) :
    (Lexer.wordKind k (String.ofList word)).SpelledBy word := by
  rcases wordKind_cases k (String.ofList word) with ⟨s, -, hs, hk⟩ | hk | hk
  · rw [hk]
    exact ((Symbol.spelling_of_ofWord? hs).trans String.toList_ofList).symm
  · rw [hk]
    exact String.toList_ofList.symm
  · rw [hk]
    exact String.toList_ofList.symm

end TokenKind

/-! ### Trivia -/

/-- Text without a meaning before the text `rest`: blanks, comments, and backslashes with the line
breaks that they join. -/
inductive Trivia : List Char → List Char → Prop
  | nil (rest : List Char) : Trivia [] rest
  | blank {c : Char} {gap rest : List Char} (hc : Text.isBlank c = true) (h : Trivia gap rest) :
      Trivia (c :: gap) rest
  | lineComment {body gap rest : List Char} (hbody : '\n' ∉ body)
      (hend : ∀ c ∈ (gap ++ rest).head?, c = '\n') (h : Trivia gap rest) :
      Trivia ('/' :: '/' :: body ++ gap) rest
  | blockComment {body gap rest : List Char} (hbody : EndsComment body) (h : Trivia gap rest) :
      Trivia ('/' :: '*' :: body ++ gap) rest
  | join {inner gap rest : List Char} (hinner : Trivia inner ('\n' :: gap ++ rest))
      (h : Trivia gap rest) : Trivia ('\\' :: inner ++ '\n' :: gap) rest

theorem Trivia.append {gap more rest : List Char} (h : Trivia gap (more ++ rest))
    (h' : Trivia more rest) : Trivia (gap ++ more) rest := by
  generalize he : more ++ rest = all at h
  induction h with
  | nil _ => exact h'
  | blank hc _ ih => exact .blank hc (ih he)
  | lineComment hbody hend _ ih =>
    subst he
    rw [List.append_assoc]
    exact .lineComment hbody (by rwa [List.append_assoc]) (ih rfl)
  | blockComment hbody _ ih =>
    rw [List.append_assoc]
    exact .blockComment hbody (ih he)
  | join hinner _ _ ih =>
    subst he
    rw [List.append_assoc]
    exact .join (by simpa using hinner) (ih rfl)

end Frontend
