import Frontend.Source.Span
import Frontend.Text.Quoted

/-!
# Tokens

A token is a word of the language together with the span it was read from. Its kind says what it
stands for: a symbol of the language itself, a name, a literal, or a part of the layout.
-/

namespace Frontend

/-! ### Symbols -/

/-- The words of the language itself. -/
inductive Symbol where
  | openRound
  | closeRound
  | openSquare
  | closeSquare
  | openCurly
  | closeCurly
  | comma
  | semicolon
  | asWord
  | dataWord
  | importWord
  | moduleWord
  | atSign
  | backslash
  | colon
  | doubleColon
  | equals
  | thinArrowLeft
  | thinArrowRight
  | verticalBar
  | wideArrowRight
  /-- The dollar sign and bracket before an expression inside of a text literal. -/
  | interpolationOpen
  /-- The bracket after an expression inside of a text literal. -/
  | interpolationClose
  /-- The dot between a value and its member. -/
  | dotAccess
deriving DecidableEq, Repr

namespace Symbol

/-- The name of a symbol: its spelling, or a word for those with several. -/
def name : Symbol → String
  | openRound          => "("
  | closeRound         => ")"
  | openSquare         => "["
  | closeSquare        => "]"
  | openCurly          => "\x7b"
  | closeCurly         => "\x7d"
  | comma              => ","
  | semicolon          => ";"
  | asWord             => "as"
  | dataWord           => "data"
  | importWord         => "import"
  | moduleWord         => "module"
  | atSign             => "@"
  | backslash          => "\\"
  | colon              => ":"
  | doubleColon        => "::"
  | equals             => "="
  | thinArrowLeft      => "<-"
  | thinArrowRight     => "->"
  | verticalBar        => "|"
  | wideArrowRight     => "=>"
  | interpolationOpen  => "interpolopen"
  | interpolationClose => "interpolclose"
  | dotAccess          => "dotaccess"

/-- The symbols in the order of their declaration. -/
def all : List Symbol :=
  [openRound, closeRound, openSquare, closeSquare, openCurly, closeCurly, comma, semicolon,
   asWord, dataWord, importWord, moduleWord, atSign, backslash, colon, doubleColon, equals,
   thinArrowLeft, thinArrowRight, verticalBar, wideArrowRight, interpolationOpen,
   interpolationClose, dotAccess]

/-- The symbol of a given name. -/
def ofName? (name : String) : Option Symbol := all.find? (·.name == name)

/-- The symbol of a character that is a word by itself. -/
def ofChar? (c : Char) : Option Symbol :=
  if c = '(' then some openRound
  else if c = ')' then some closeRound
  else if c = '[' then some openSquare
  else if c = ']' then some closeSquare
  else if c = '\x7b' then some openCurly
  else if c = '\x7d' then some closeCurly
  else if c = ',' then some comma
  else if c = ';' then some semicolon
  else none

/-- The reserved words and operators. -/
def words : List Symbol :=
  [asWord, dataWord, importWord, moduleWord, atSign, backslash, colon, doubleColon, equals,
   thinArrowLeft, thinArrowRight, verticalBar, wideArrowRight]

/-- The symbol of a reserved word or operator. -/
def ofWord? (word : String) : Option Symbol := words.find? (·.name == word)

/-- The form of a symbol in messages. -/
def display : Symbol → String
  | interpolationOpen  => Text.cite "$\x7b"
  | interpolationClose => "closing interpolation bracket"
  | dotAccess          => Text.cite "."
  | s                  => Text.cite s.name

/-- The word for a symbol in exact forms. -/
def label : Symbol → String
  | openRound          => "OpeningRoundBracket"
  | closeRound         => "ClosingRoundBracket"
  | openSquare         => "OpeningSquareBracket"
  | closeSquare        => "ClosingSquareBracket"
  | openCurly          => "OpeningCurlyBracket"
  | closeCurly         => "ClosingCurlyBracket"
  | comma              => "Comma"
  | semicolon          => "Semicolon"
  | asWord             => "As"
  | dataWord           => "Data"
  | importWord         => "Import"
  | moduleWord         => "Module"
  | atSign             => "At"
  | backslash          => "Backslash"
  | colon              => "Colon"
  | doubleColon        => "DoubleColon"
  | equals             => "Equals"
  | thinArrowLeft      => "ThinArrowLeft"
  | thinArrowRight     => "ThinArrowRight"
  | verticalBar        => "VerticalBar"
  | wideArrowRight     => "WideArrowRight"
  | interpolationOpen  => "InterpolationOpen"
  | interpolationClose => "InterpolationClose"
  | dotAccess          => "DotAccess"

end Symbol

/-- A character that is never part of a word: brackets, separators and quotation marks. -/
def isReserved (c : Char) : Bool :=
  (Symbol.ofChar? c).isSome || c == '"' || c == '\''

/-! ### Kinds -/

/-- What a token stands for. -/
inductive TokenKind where
  | symbol (s : Symbol)
  | identifier (name : String)
  /-- A word of punctuation and symbols that is not reserved. -/
  | operator (name : String)
  /-- The decoded content of a text literal or of a segment of one. -/
  | text (content : String)
  /-- The decoded content of a character literal: one character, or an unknown escape sequence
  as it was written. -/
  | character (content : String)
  | number (digits : String)
  /-- The spaces and tabs at the start of a line. -/
  | indentation (blanks : String)
  | lineBreak
  | endOfInput
deriving DecidableEq, Repr

/-- The lexical category of a token. -/
inductive TokenCategory where
  | symbol
  | identifier
  | operator
  | text
  | character
  | number
  | indentation
  | lineBreak
  | endOfInput
deriving DecidableEq, Repr

namespace TokenCategory

/-- The categories in the order of their declaration. -/
def all : List TokenCategory :=
  [symbol, identifier, operator, text, character, number, indentation, lineBreak, endOfInput]

/-- The word for a category in listings of tokens. -/
def name : TokenCategory → String
  | symbol      => "Symbol"
  | identifier  => "Identifier"
  | operator    => "Operator"
  | text        => "String"
  | character   => "Character"
  | number      => "Number"
  | indentation => "Indent"
  | lineBreak   => "NewLine"
  | endOfInput  => "EndOfFile"

/-- The category of a given name. -/
def ofName? (name : String) : Option TokenCategory := all.find? (·.name == name)

end TokenCategory

namespace TokenKind

/-- The category of a kind. -/
def category : TokenKind → TokenCategory
  | symbol _      => .symbol
  | identifier _  => .identifier
  | operator _    => .operator
  | text _        => .text
  | character _   => .character
  | number _      => .number
  | indentation _ => .indentation
  | lineBreak     => .lineBreak
  | endOfInput    => .endOfInput

/-- The text that a token of the kind carries, if it carries one. Symbols carry their name. -/
def payload? : TokenKind → Option String
  | symbol s      => some s.name
  | identifier t  => some t
  | operator t    => some t
  | text t        => some t
  | character t   => some t
  | number t      => some t
  | indentation t => some t
  | lineBreak     => none
  | endOfInput    => none

/-- The kind of a category with a given payload, unless a symbol has an unknown name. -/
def ofPayload? (category : TokenCategory) (payload : String) : Option TokenKind :=
  match category with
  | .symbol      => (Symbol.ofName? payload).map symbol
  | .identifier  => some (identifier payload)
  | .operator    => some (operator payload)
  | .text        => some (text payload)
  | .character   => some (character payload)
  | .number      => some (number payload)
  | .indentation => some (indentation payload)
  | .lineBreak   => some lineBreak
  | .endOfInput  => some endOfInput

/-- The kind is that of a given symbol. -/
def isSymbol (k : TokenKind) (s : Symbol) : Bool := k == symbol s

/-- The kind is that of an identifier. -/
def isIdentifier : TokenKind → Bool
  | identifier _ => true
  | _            => false

/-- The kind is that of an operator. -/
def isOperator : TokenKind → Bool
  | operator _ => true
  | _          => false

/-- The kind is that of an indentation. -/
def isIndentation : TokenKind → Bool
  | indentation _ => true
  | _             => false

/-- The kind is that of a text literal. -/
def isText : TokenKind → Bool
  | text _ => true
  | _      => false

/-- The kind ends a line that has no content. -/
def isBlank (k : TokenKind) : Bool := k == lineBreak || k == endOfInput

/-- The form of a token in messages. -/
def display : TokenKind → String
  | symbol s        => s.display
  | identifier name => "identifier " ++ Text.cite name
  | operator name   => "operator " ++ Text.cite name
  | text _          => "text literal"
  | character _     => "character literal"
  | number digits   => "number literal " ++ Text.cite digits
  | indentation _   => "indentation"
  | lineBreak       => "line break"
  | endOfInput      => "end of input"

/-- The exact form of a token. -/
def inspect : TokenKind → String
  | symbol s           => "Symbol(" ++ s.label ++ ")"
  | identifier name    => "Identifier(" ++ Text.quoted name ++ ")"
  | operator name      => "Operator(" ++ Text.quoted name ++ ")"
  | text content       => "TextLiteral(" ++ Text.quoted content ++ ")"
  | character content  => "CharacterLiteral(" ++ Text.quoted content ++ ")"
  | number digits      => "NumberLiteral(" ++ Text.quoted digits ++ ")"
  | indentation blanks => "Indentation(" ++ Text.quoted blanks ++ ")"
  | lineBreak          => "LineBreak"
  | endOfInput         => "EndOfInput"

end TokenKind

/-! ### Tokens -/

/-- A word of the language and where it was read. -/
structure Token where
  kind : TokenKind
  span : Span
deriving DecidableEq, Repr

namespace Token

/-- The token behind an empty text. -/
def endOfNothing : Token := ⟨.endOfInput, .origin⟩

/-- The exact form of a token with its span. -/
def inspect (t : Token) : String := t.kind.inspect ++ " " ++ t.span.inspect

end Token

end Frontend
