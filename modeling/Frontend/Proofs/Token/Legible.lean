import Frontend.Proofs.Token.Rescanning
import Frontend.Proofs.Token.Tiling

/-!
# Tokens that can be read again

The tokens of a text are legible: a word, a number or the content of a character literal is what
the lexer would read from it alone. The dot of a member access stands between two words, and the
second one starts with a letter. Both are invariants of the lexer.
-/

namespace Frontend

open Text (isAlphabetic isBlank)

/-! ### Letters -/

namespace Text

theorem isBlank_eq_false_of_isAlphabetic {c : Char} (h : isAlphabetic c) : isBlank c = false := by
  cases hc : isBlank c with
  | false => rfl
  | true =>
    have hletter := forall_of_isBlank (P := fun c => isAlphabetic c = false) (by decide +kernel) hc
    rw [hletter] at h
    cases h

theorem isDigit_eq_false_of_isAlphabetic {c : Char} (h : isAlphabetic c) : c.isDigit = false := by
  have hdigits : ∀ n ∈ List.range' 48 10, isAlphabetic (Char.ofNat n) = false := by decide +kernel
  cases hc : c.isDigit with
  | false => rfl
  | true =>
    have hrange : c.toNat ∈ List.range' 48 10 := by
      simp only [Char.isDigit, Bool.and_eq_true, decide_eq_true_eq, ge_iff_le] at hc
      have hlow : 48 ≤ c.toNat := hc.1
      have hhigh : c.toNat ≤ 57 := hc.2
      rw [List.mem_range'_1]
      omega
    have hletter := hdigits _ hrange
    rw [Char.ofNat_toNat, h] at hletter
    cases hletter

end Text

namespace Lexer

variable {named? : String → Option Char} {s t : Lexer} {c : Char} {rest : List Char}

/-! ### The start of a word -/

/-- A word starts with the character, before the given text: nothing else does. -/
structure StartsWord (c : Char) (rest : List Char) : Prop where
  notBlank : isBlank c = false
  notReserved : isReserved c = false
  notDigit : c.isDigit = false
  notFraction : ¬ (c = '.' ∧ startsWithDigit rest)
  notLineComment : ¬ (c = '/' ∧ rest.head? = some '/')
  notBlockComment : ¬ (c = '/' ∧ rest.head? = some '*')

theorem isReserved_eq_false_iff :
    isReserved c = false ↔ Symbol.ofChar? c = none ∧ c ≠ '"' ∧ c ≠ '\'' := by
  simp [isReserved, and_assoc]

theorem StartsWord.step_eq (h : StartsWord c rest) : s.step named? c rest = s.word c rest := by
  have hblank {d : Char} (hd : isBlank d = true) : c ≠ d := by
    rintro rfl
    rw [h.notBlank] at hd
    cases hd
  obtain ⟨hsymbol, hquote, hapostrophe⟩ := isReserved_eq_false_iff.mp h.notReserved
  have hindent : ¬ (isIndent c ∧ s.atLineStart) := by
    simp [isIndent, hblank (d := ' ') (by decide), hblank (d := '\t') (by decide)]
  have hnumber : ¬ (c.isDigit = true ∨ c = '.' ∧ startsWithDigit rest) := by
    simpa [h.notDigit] using h.notFraction
  rw [step, if_neg (hblank (by decide)), if_neg hindent, if_neg (by simp [h.notBlank]),
    if_neg hquote, if_neg hapostrophe, if_neg hnumber, if_neg h.notLineComment,
    if_neg h.notBlockComment, hsymbol]
  rcases s.brackets with _ | ⟨⟨kind, quote⟩, brackets⟩
  · rfl
  · cases kind <;> rfl

/-- A number starts with a digit, or with a dot before a digit. -/
theorem step_number (hc : c.isDigit ∨ c = '.' ∧ startsWithDigit rest) :
    s.step named? c rest = s.number := by
  have hne {d : Char} (hd : d.isDigit = false ∧ d ≠ '.') : c ≠ d := by
    rintro rfl
    rcases hc with hc | hc
    · simp [hd.1] at hc
    · exact hd.2 hc.1
  have hblank : ¬ isBlank c = true := fun hc =>
    hne (Text.forall_of_isBlank (P := fun c => c.isDigit = false ∧ c ≠ '.') (by decide) hc) rfl
  have hindent : ¬ (isIndent c = true ∧ s.atLineStart = true) := by
    simp [isIndent, hne (d := ' ') (by decide), hne (d := '\t') (by decide)]
  rw [step, if_neg (hne (by decide)), if_neg hindent, if_neg hblank, if_neg (hne (by decide)),
    if_neg (hne (by decide)), if_pos hc]

theorem StartsWord.of_isAlphabetic (h : isAlphabetic c) : StartsWord c rest := by
  have hne {d : Char} (hd : isAlphabetic d = false) : c ≠ d := by
    rintro rfl
    rw [h] at hd
    cases hd
  have hsymbol : Symbol.ofChar? c = none := by
    simp [Symbol.ofChar?, hne (d := '(') (by decide), hne (d := ')') (by decide),
      hne (d := '[') (by decide), hne (d := ']') (by decide), hne (d := '\x7b') (by decide),
      hne (d := '\x7d') (by decide), hne (d := ',') (by decide), hne (d := ';') (by decide)]
  exact
    { notBlank := Text.isBlank_eq_false_of_isAlphabetic h
      notReserved := isReserved_eq_false_iff.mpr ⟨hsymbol, hne (by decide), hne (by decide)⟩
      notDigit := Text.isDigit_eq_false_of_isAlphabetic h
      notFraction := fun hc => hne (by decide) hc.1
      notLineComment := fun hc => hne (by decide) hc.1
      notBlockComment := fun hc => hne (by decide) hc.1 }

/-- Before another text that starts in the same way, if it starts at all. -/
theorem StartsWord.of_isPrefix {tail : List Char} (h : StartsWord c rest) (htail : tail <+: rest) :
    StartsWord c tail := by
  cases tail with
  | nil => exact { h with
      notFraction := fun hc => by cases hc.2
      notLineComment := fun hc => by cases hc.2
      notBlockComment := fun hc => by cases hc.2 }
  | cons d tail =>
    obtain ⟨more, rfl⟩ := htail
    exact { h with
      notFraction := h.notFraction
      notLineComment := h.notLineComment
      notBlockComment := h.notBlockComment }

/-- A word of a class as it is read where nothing goes on with it. -/
structure IsWord (k : WordClass) (c : Char) (tail : List Char) : Prop extends
    StartsWord c tail where
  class_eq : WordClass.of? c = some k
  tail_eq : wordTail k tail = tail

theorem StartsWord.isWord {k : WordClass} (h : StartsWord c rest)
    (hk : WordClass.of? c = some k) : IsWord k c (wordTail k rest) where
  toStartsWord := h.of_isPrefix (wordTail_isPrefix k rest)
  class_eq := hk
  tail_eq := wordTail_wordTail k rest

end Lexer

/-! ### Legible kinds -/

namespace TokenKind

open Lexer (IsWord startsWithDigit startsWithLetter wordKind)

/-- The token is what is read of its own text: the text of a word, of a number, or between the
quotes of a character literal. -/
def Legible (named? : String → Option Char) : TokenKind → Prop
  | identifier name   => ∃ k c tail, IsWord k c tail ∧
    wordKind k (String.ofList (c :: tail)) = identifier name
  | operator name     => ∃ k c tail, IsWord k c tail ∧
    wordKind k (String.ofList (c :: tail)) = operator name
  | number digits     => ∃ c rest, digits.toList = c :: rest ∧
    (c.isDigit ∨ c = '.' ∧ startsWithDigit rest) ∧ Number.read (c :: rest) = .ok (c :: rest)
  | character content => ∃ ahead body, CharacterBody.read? named? ahead = some body ∧
    content = String.ofList body.content
  | _                 => True

/-- A word that starts with a letter. -/
def startsWithLetter : TokenKind → Bool
  | symbol s        => Lexer.startsWithLetter s.spelling
  | identifier name => Lexer.startsWithLetter name.toList
  | operator name   => Lexer.startsWithLetter name.toList
  | _               => false

/-- How a token stands behind another one: the dot of a member access behind a word, and a word
that starts with a letter behind the dot. -/
structure Follows (later earlier : TokenKind) : Prop where
  word : later = .symbol .dotAccess → ∃ k w, earlier = wordKind k w
  letter : earlier = .symbol .dotAccess → later.startsWithLetter

variable {named? : String → Option Char}

theorem legible_wordKind {k : WordClass} {c : Char} {tail : List Char} (h : IsWord k c tail) :
    (wordKind k (String.ofList (c :: tail))).Legible named? := by
  rcases wordKind_cases k (String.ofList (c :: tail)) with ⟨s, -, -, hk⟩ | hk | hk
  · rw [hk]
    trivial
  · rw [hk]
    exact ⟨k, c, tail, h, hk⟩
  · rw [hk]
    exact ⟨k, c, tail, h, hk⟩

theorem legible_number {c : Char} {rest text : List Char} (hc : c.isDigit ∨ c = '.')
    (h : Number.read (c :: rest) = .ok text) :
    (number (String.ofList text)).Legible named? := by
  obtain ⟨d, more, rfl⟩ := List.exists_cons_of_ne_nil (Lexer.number_read_ne_nil hc h)
  have hagain : Number.read ((d :: more) ++ []) = .ok (d :: more) := Number.read_again h (by simp)
  rw [List.append_nil] at hagain
  refine ⟨d, more, String.toList_ofList, ?_, hagain⟩
  obtain hwhole | ⟨whole, fraction, htext, hne, hwhole, hfraction⟩ := Number.read_eq_ok h
  · exact .inl (hwhole d List.mem_cons_self)
  · cases whole with
    | nil =>
      obtain ⟨rfl, rfl⟩ := List.cons.inj htext
      obtain ⟨e, fraction, rfl⟩ := List.exists_cons_of_ne_nil hne
      exact .inr ⟨rfl, hfraction e List.mem_cons_self⟩
    | cons e whole =>
      obtain ⟨rfl, -⟩ := List.cons.inj htext
      exact .inl (hwhole d List.mem_cons_self)

theorem startsWithLetter_wordKind (k : WordClass) (word : List Char) :
    (wordKind k (String.ofList word)).startsWithLetter = Lexer.startsWithLetter word := by
  rcases wordKind_cases k (String.ofList word) with ⟨s, -, hs, hk⟩ | hk | hk
  · rw [hk, startsWithLetter, Symbol.spelling_of_ofWord? hs, String.toList_ofList]
  · rw [hk, startsWithLetter, String.toList_ofList]
  · rw [hk, startsWithLetter, String.toList_ofList]

theorem wordKind_ne_dotAccess (k : WordClass) (word : String) :
    wordKind k word ≠ .symbol .dotAccess := by
  rcases wordKind_cases k word with ⟨s, hs, -, hk⟩ | hk | hk
  · rw [hk]
    rintro ⟨⟩
    exact absurd hs (by decide)
  · simp [hk]
  · simp [hk]

end TokenKind

/-! ### The invariant of the lexer -/

namespace Lexer

variable {named? : String → Option Char} {s t : Lexer} {c : Char} {rest text : List Char}
  {kind : TokenKind}

/-- The tokens read so far are legible, and behind the dot of a member access a letter is ahead. -/
structure Legible (named? : String → Option Char) (s : Lexer) : Prop where
  kinds : ∀ t ∈ s.tokens, t.kind.Legible named?
  follows : s.tokens.IsChain fun u t => u.kind.Follows t.kind
  letter : s.latest? = some (.symbol .dotAccess) → startsWithLetter s.ahead

namespace Legible

theorem emit_of_follows (h : s.Legible named?) (hkind : kind.Legible named?)
    (hfollows : ∀ k ∈ s.latest?, kind.Follows k)
    (hletter : kind = .symbol .dotAccess → startsWithLetter (s.emit kind text).ahead) :
    (s.emit kind text).Legible named? where
  kinds := List.forall_mem_cons.mpr ⟨hkind, h.kinds⟩
  follows := List.isChain_cons.mpr
    ⟨fun t ht => hfollows t.kind (Option.mem_map_of_mem _ ht), h.follows⟩
  letter hlatest := hletter (Option.some.inj hlatest)

/-- Read a token where no member access is begun. -/
theorem emit (h : s.Legible named?) (hdot : s.latest? ≠ some (.symbol .dotAccess))
    (hkind : kind.Legible named?) (hne : kind ≠ .symbol .dotAccess) :
    (s.emit kind text).Legible named? := by
  refine h.emit_of_follows hkind (fun k hk => ⟨fun hd => absurd hd hne, ?_⟩)
    fun hd => absurd hd hne
  rintro rfl
  exact absurd hk hdot

/-- The tokens decide, unless a member access is begun. -/
theorem of_tokens_eq (h : s.Legible named?) (hdot : s.latest? ≠ some (.symbol .dotAccess))
    (ht : t.tokens = s.tokens) : t.Legible named? where
  kinds := ht ▸ h.kinds
  follows := ht ▸ h.follows
  letter hlatest := by
    rw [latest?, ht] at hlatest
    exact absurd hlatest hdot

theorem emit_of_tokens_eq (h : s.Legible named?)
    (hdot : s.latest? ≠ some (.symbol .dotAccess)) (ht : t.tokens = s.tokens)
    (hkind : kind.Legible named?) (hne : kind ≠ .symbol .dotAccess) :
    (t.emit kind text).Legible named? :=
  (h.of_tokens_eq hdot ht).emit (by rwa [latest?, ht]) hkind hne

theorem number (h : s.Legible named?) (hdot : s.latest? ≠ some (.symbol .dotAccess))
    (ha : s.ahead = c :: rest) (hc : c.isDigit ∨ c = '.') (hstep : s.number = .ok t) :
    t.Legible named? := by
  rw [Lexer.number, ha] at hstep
  split at hstep
  · next text hread =>
    cases hstep
    exact h.emit hdot (TokenKind.legible_number hc hread) (by simp)
  · cases hstep
  · cases hstep

/-- What directly follows a word. -/
theorem afterWord {k : WordClass} {w : String} (h : s.Legible named?)
    (hword : s.latest? = some (wordKind k w)) (hstep : s.afterWord = .ok t) :
    t.Legible named? := by
  have hdot : s.latest? ≠ some (.symbol .dotAccess) := by
    rw [hword]
    exact fun hd => TokenKind.wordKind_ne_dotAccess k w (Option.some.inj hd)
  rw [Lexer.afterWord] at hstep
  split at hstep
  · next rest ha =>
    split at hstep
    · next hletter =>
      cases hstep
      refine h.emit_of_follows trivial (fun k' hk' => ⟨fun _ => ?_, ?_⟩) fun _ => ?_
      · exact ⟨k, w, Option.some.inj (hk'.symm.trans hword)⟩
      · rintro rfl
        exact absurd hk' hdot
      · rwa [ahead_emit (show s.ahead = ['.'] ++ rest from ha)]
    · split at hstep
      · exact h.number hdot ha (.inr rfl) hstep
      · cases hstep
        exact h
  · cases hstep
    exact h

theorem word (h : s.Legible named?) (ha : s.ahead = c :: rest) (hstart : StartsWord c rest)
    (hstep : s.word c rest = .ok t) : t.Legible named? := by
  rw [Lexer.word] at hstep
  split at hstep
  · cases hstep
  · next k hk =>
    have hne := TokenKind.wordKind_ne_dotAccess k (String.ofList (c :: wordTail k rest))
    refine afterWord (h.emit_of_follows (TokenKind.legible_wordKind (hstart.isWord hk))
      (fun k' _ => ⟨fun hd => absurd hd hne, ?_⟩) fun hd => absurd hd hne) rfl hstep
    rintro rfl
    have hletter := h.letter ‹_›
    rw [ha] at hletter
    rwa [TokenKind.startsWithLetter_wordKind]

theorem segment {lead : List Char} {quote : Span} (h : s.Legible named?)
    (hdot : s.latest? ≠ some (.symbol .dotAccess))
    (hstep : s.segment named? lead quote = .ok t) : t.Legible named? := by
  have htext (content : String) (text : List Char) :
      (s.emit (.text content) text).Legible named? := h.emit hdot trivial (by simp)
  have hopen (content : String) (text open' : List Char) :
      ((s.emit (.text content) text).emit (.symbol .interpolationOpen) open').Legible named? :=
    (htext content text).emit (by simp [latest?, Lexer.emit]) trivial (by simp)
  rw [Lexer.segment] at hstep
  split at hstep
  · cases hstep
    exact htext _ _
  · cases hstep
    exact (hopen _ _ _).of_tokens_eq (by simp [latest?, Lexer.emit]) rfl
  · cases hstep

theorem lineBreak (h : s.Legible named?) (hdot : s.latest? ≠ some (.symbol .dotAccess)) :
    s.lineBreak.Legible named? := by
  rw [Lexer.lineBreak]
  split
  · next hlast =>
    obtain ⟨u, tokens, htokens, hkind⟩ := exists_tokens_of_lastIs hlast
    obtain ⟨hkinds, hfollows, -⟩ := h
    rw [htokens] at hkinds hfollows
    obtain ⟨hlatest, hfollows⟩ := List.isChain_cons.mp hfollows
    rw [htokens, List.tail_cons]
    refine ⟨fun t ht => hkinds t (List.mem_cons_of_mem u ht), hfollows, fun hdot => ?_⟩
    -- A backslash is no word that may follow the dot of a member access.
    obtain ⟨v, hv, hvdot⟩ := Option.map_eq_some_iff.mp hdot
    have hletter := (hlatest v hv).letter hvdot
    rw [hkind] at hletter
    exact absurd hletter (by decide)
  · split
    · exact h.of_tokens_eq hdot rfl
    · exact h.emit hdot trivial (by simp)

theorem resume {quote : Span} (h : s.Legible named?)
    (hdot : s.latest? ≠ some (.symbol .dotAccess)) (hstep : s.resume named? quote = .ok t) :
    t.Legible named? := by
  have hclosed : ((s.close .interpolation).emit (.symbol .interpolationClose) ['\x7d']).Legible
      named? := h.emit_of_tokens_eq hdot (tokens_close s _) trivial (by simp)
  exact hclosed.segment (by simp [latest?, Lexer.emit]) hstep

theorem reserved {symbol : Symbol} (h : s.Legible named?)
    (hdot : s.latest? ≠ some (.symbol .dotAccess)) (hc : Symbol.ofChar? c = some symbol) :
    (s.reserved symbol c).Legible named? := by
  have hne : TokenKind.symbol symbol ≠ .symbol .dotAccess := by
    rintro ⟨⟩
    have hname := congrArg String.toList (Symbol.name_of_ofChar? hc)
    simp [Symbol.name] at hname
  refine h.emit_of_tokens_eq hdot ?_ trivial hne
  split
  · rw [tokens_close]
    split <;> rfl
  · split <;> rfl

theorem character (h : s.Legible named?) (hdot : s.latest? ≠ some (.symbol .dotAccess))
    (hstep : s.character named? = .ok t) : t.Legible named? := by
  rw [Lexer.character] at hstep
  split at hstep
  · cases hstep
  · next body hread =>
    split at hstep
    · cases hstep
      exact h.emit hdot ⟨_, body, hread, rfl⟩ (by simp)
    · cases hstep

theorem blockComment (h : s.Legible named?) (hdot : s.latest? ≠ some (.symbol .dotAccess))
    (hstep : s.blockComment = .ok t) : t.Legible named? := by
  rw [Lexer.blockComment] at hstep
  split at hstep
  · cases hstep
    exact h.of_tokens_eq hdot rfl
  · cases hstep

theorem step (h : s.Legible named?) (ha : s.ahead = c :: rest)
    (hstep : s.step named? c rest = .ok t) : t.Legible named? := by
  by_cases hletter : isAlphabetic c
  · have hstart : StartsWord c rest := .of_isAlphabetic hletter
    rw [hstart.step_eq] at hstep
    exact h.word ha hstart hstep
  have hdot : s.latest? ≠ some (.symbol .dotAccess) := by
    intro hdot
    have hahead := h.letter hdot
    rw [ha] at hahead
    exact hletter hahead
  rw [Lexer.step] at hstep
  split at hstep
  · cases hstep
    exact h.lineBreak hdot
  split at hstep
  · cases hstep
    exact h.emit hdot trivial (by simp)
  split at hstep
  · cases hstep
    exact h.of_tokens_eq hdot rfl
  next hblank =>
  split at hstep
  · exact h.segment hdot hstep
  next hquote =>
  split at hstep
  · exact h.character hdot hstep
  next hapostrophe =>
  split at hstep
  · next hnumber => exact h.number hdot ha (hnumber.imp id And.left) hstep
  next hnumber =>
  split at hstep
  · cases hstep
    exact h.of_tokens_eq hdot rfl
  next hline =>
  split at hstep
  · exact h.blockComment hdot hstep
  next hblock =>
  split at hstep
  · exact h.resume hdot hstep
  · cases hstep
    exact h.reserved hdot ‹_›
  · next hsymbol =>
    refine h.word ha ?_ hstep
    exact
      { notBlank := Bool.not_eq_true _ ▸ hblank
        notReserved := isReserved_eq_false_iff.mpr ⟨hsymbol, hquote, hapostrophe⟩
        notDigit := Bool.not_eq_true _ ▸ fun hc => hnumber (.inl hc)
        notFraction := fun hc => hnumber (.inr hc)
        notLineComment := hline
        notBlockComment := hblock }

/-- The invariant holds at the end of every run. -/
theorem run {tokens : List Token} (h : s.Legible named?) (hrun : s.run named? = .ok tokens) :
    ∃ t : Lexer, t.Legible named? ∧ t.ahead = [] ∧ t.finish = .ok tokens := by
  fun_induction Lexer.run named? s with
  | case1 s ha => exact ⟨s, h, ha, hrun⟩
  | case2 => cases hrun
  | case3 s c rest ha t ht ih => exact ih (h.step ha ht) hrun

end Legible

end Lexer

/-- The tokens of a text are legible, and each stands behind the one before it as it may. -/
theorem legible_of_lexWith {named? : String → Option Char} {source : String} {tokens : List Token}
    (h : lexWith named? source = .ok tokens) :
    (∀ t ∈ tokens, t.kind.Legible named?) ∧ tokens.IsChain fun t u => u.kind.Follows t.kind := by
  have hstart : (Lexer.ofText source.toList).Legible named? :=
    ⟨by simp [Lexer.ofText], .nil, by simp [Lexer.latest?, Lexer.ofText]⟩
  obtain ⟨s, ⟨hkinds, hfollows, hletter⟩, hahead, hfinish⟩ := hstart.run h
  rw [Lexer.finish] at hfinish
  split at hfinish
  · cases hfinish
  cases hfinish
  constructor
  · intro t ht
    rcases List.mem_append.mp ht with ht | ht
    · exact hkinds t (List.mem_reverse.mp ht)
    · rw [List.mem_singleton.mp ht]
      trivial
  · rw [← List.isChain_reverse, List.reverse_append, List.reverse_reverse]
    refine List.isChain_cons.mpr ⟨fun t ht => ⟨by simp, fun hdot => ?_⟩, hfollows⟩
    have hlatest : s.latest? = some (.symbol .dotAccess) := by
      rw [Lexer.latest?, show s.tokens.head? = some t from ht, Option.map_some, hdot]
    have hletter' := hletter hlatest
    rw [hahead] at hletter'
    cases hletter'

end Frontend
