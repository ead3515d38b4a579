import Frontend.Proofs.Token.Moves
import Mathlib.Data.List.Basic

/-!
# The end of a line

No scanner looks past the end of a line but that of block comments. What is read from a text is
therefore read from it where a line feed and more text follow (`Steps.extend`): at its end the text
is read as if the line ended there.
-/

namespace Frontend

variable {named? : String → Option Char} (more : List Char)

/-! ### Scanners before a line feed -/

theorem takeWhile_append_lineFeed {p : Char → Bool} (hp : p '\n' = false) (text : List Char) :
    (text ++ '\n' :: more).takeWhile p = text.takeWhile p := by
  induction text with
  | nil => simp [hp]
  | cons c text ih => simp [List.takeWhile_cons, ih]

theorem takeWhile_take_append_lineFeed {p : Char → Bool} (hp : p '\n' = false) (n : Nat)
    (text : List Char) :
    ((text ++ '\n' :: more).take n).takeWhile p = (text.take n).takeWhile p := by
  rw [List.take_append]
  cases n - text.length with
  | zero => rw [List.take_zero, List.append_nil]
  | succ k => exact takeWhile_append_lineFeed _ hp _

theorem head?_append_lineFeed {c : Char} (hc : c ≠ '\n') (text : List Char) :
    (text ++ '\n' :: more).head? = some c ↔ text.head? = some c := by
  cases text with
  | nil => simpa using hc.symm
  | cons d text => rfl

theorem Number.read_append_lineFeed (text : List Char) :
    read (text ++ '\n' :: more) = read text := by
  have hdrop (text : List Char) : (text ++ '\n' :: more).drop (text.takeWhile Char.isDigit).length =
      text.drop (text.takeWhile Char.isDigit).length ++ '\n' :: more :=
    List.drop_append_of_le_length (List.takeWhile_prefix _).length_le
  have htakeWhile (text : List Char) : (text ++ '\n' :: more).takeWhile Char.isDigit =
      text.takeWhile Char.isDigit := takeWhile_append_lineFeed more (by decide) text
  rw [read, read, htakeWhile, hdrop]
  cases text.drop (text.takeWhile Char.isDigit).length with
  | nil => simp
  | cons c rest =>
    by_cases hc : c = '.'
    · subst hc
      simp only [List.cons_append, htakeWhile, hdrop]
      cases rest.drop (rest.takeWhile Char.isDigit).length with
      | nil => simp
      | cons d rest => by_cases hd : d = '.' <;> simp [hd]
    · simp [hc]

namespace Escape

theorem readNamed_append_lineFeed (text : List Char) :
    readNamed named? (text ++ '\n' :: more) = readNamed named? text := by
  cases text with
  | nil => simp [readNamed]
  | cons c text =>
    by_cases hc : c = '\x7b'
    · subst hc
      have hdrop : (text ++ '\n' :: more).drop (text.takeWhile isNameChar).length =
          text.drop (text.takeWhile isNameChar).length ++ '\n' :: more :=
        List.drop_append_of_le_length (List.takeWhile_prefix _).length_le
      simp only [readNamed, List.cons_append, takeWhile_append_lineFeed more
        (by decide : isNameChar '\n' = false), hdrop]
      cases text.drop (text.takeWhile isNameChar).length with
      | nil => simp
      | cons d rest => by_cases hd : d = '\x7d' <;> simp [hd]
    · simp [readNamed, hc]

theorem read_append_lineFeed (text : List Char) :
    read named? (text ++ '\n' :: more) = read named? text := by
  cases text with
  | nil => simp [read, simple?, isOctalDigit]
  | cons c text =>
    have hhex (size : Nat) : readHex c size (text ++ '\n' :: more) = readHex c size text := by
      rw [readHex, readHex, takeWhile_take_append_lineFeed more (by decide)]
    have hoctal : readOctal (c :: text ++ '\n' :: more) = readOctal (c :: text) := by
      rw [readOctal, readOctal, takeWhile_take_append_lineFeed more (by decide)]
    rw [List.cons_append] at hoctal ⊢
    simp only [read, readNamed_append_lineFeed, hhex, hoctal]

end Escape

theorem Segment.read_append_lineFeed (text : List Char) :
    read named? (text ++ '\n' :: more) = read named? text := by
  fun_induction read named? text with
  | case1 => simp [read]
  | case2 rest => simp [read]
  | case3 rest => simp [read]
  | case4 rest e s hn hq ih =>
    have hdrop : (rest ++ '\n' :: more).drop e.text.length =
        rest.drop e.text.length ++ '\n' :: more :=
      List.drop_append_of_le_length (Escape.lies_read rest).1.length_le
    rw [List.cons_append, read, if_neg hn, if_neg hq, if_pos rfl]
    simp only [Escape.read_append_lineFeed]
    rw [hdrop, ih]
  | case5 c rest hn hq he hi =>
    have hi' : c = '$' ∧ (rest ++ '\n' :: more).head? = some '\x7b' :=
      ⟨hi.1, (head?_append_lineFeed more (by decide) rest).mpr hi.2⟩
    rw [List.cons_append, read, if_neg hn, if_neg hq, if_neg he, if_pos hi']
  | case6 c rest hn hq he hi s ih =>
    have hi' : ¬ (c = '$' ∧ (rest ++ '\n' :: more).head? = some '\x7b') := fun hi' =>
      hi ⟨hi'.1, (head?_append_lineFeed more (by decide) rest).mp hi'.2⟩
    rw [List.cons_append, read, if_neg hn, if_neg hq, if_neg he, if_neg hi', ih]

theorem CharacterBody.read?_append_lineFeed (text : List Char) :
    read? named? (text ++ '\n' :: more) = read? named? text := by
  cases text with
  | nil => simp [read?]
  | cons c text => simp only [List.cons_append, read?, Escape.read_append_lineFeed]

namespace Lexer

theorem startsWithDigit_append_lineFeed (text : List Char) :
    startsWithDigit (text ++ '\n' :: more) = startsWithDigit text := by
  cases text <;> rfl

theorem startsWithLetter_append_lineFeed (text : List Char) :
    startsWithLetter (text ++ '\n' :: more) = startsWithLetter text := by
  cases text with
  | nil => simp [startsWithLetter, (by decide : Text.isAlphabetic '\n' = false)]
  | cons c text => rfl

theorem wordTail_append_lineFeed (k : WordClass) (text : List Char) :
    wordTail k (text ++ '\n' :: more) = wordTail k text := by
  induction text with
  | nil => simp [wordTail, (by decide : Text.isBlank '\n' = true)]
  | cons c text ih =>
    simp only [List.cons_append, wordTail, startsWithLetter_append_lineFeed,
      startsWithDigit_append_lineFeed, ih]

/-- A block comment that is closed is so before more text as well. -/
theorem commentBody?_append {text body : List Char} (h : commentBody? text = some body) :
    commentBody? (text ++ more) = some body := by
  induction text generalizing body with
  | nil => cases h
  | cons c rest ih =>
    have hne : rest ≠ [] := by
      rintro rfl
      simp [commentBody?] at h
    rw [commentBody?] at h
    rw [List.cons_append, commentBody?, List.head?_append_of_ne_nil _ hne]
    split at h
    · next hend => rw [if_pos hend, h]
    · next hend =>
      obtain ⟨tail, htail, rfl⟩ := Option.map_eq_some_iff.mp h
      rw [if_neg hend, ih htail, Option.map_some]

/-! ### Steps before a line feed -/

/-- The same state with more text behind the text ahead. -/
def extend (s : Lexer) (more : List Char) : Lexer :=
  { s with cursor := { s.cursor with ahead := s.ahead ++ more } }

variable {s t : Lexer} {c : Char} {text rest : List Char} {kind : TokenKind}

theorem ahead_extend (s : Lexer) : (s.extend more).ahead = s.ahead ++ more := rfl

theorem extend_skip (h : s.ahead = text ++ rest) :
    (s.extend more).skip text = (s.skip text).extend more := by
  have hdrop : (s.ahead ++ more).drop text.length = s.ahead.drop text.length ++ more :=
    List.drop_append_of_le_length (by simp [h])
  simp only [skip, extend, Cursor.pass, ahead] at hdrop ⊢
  rw [hdrop]

theorem extend_emit (h : s.ahead = text ++ rest) :
    (s.extend more).emit kind text = (s.emit kind text).extend more := by
  have hdrop : (s.ahead ++ more).drop text.length = s.ahead.drop text.length ++ more :=
    List.drop_append_of_le_length (by simp [h])
  simp only [emit, extend, Cursor.pass, ahead, spanOf] at hdrop ⊢
  rw [hdrop]

theorem extend_push (kind : BracketKind) (span : Span) :
    (s.extend more).push kind span = (s.push kind span).extend more := rfl

theorem extend_close (kind : BracketKind) :
    (s.extend more).close kind = (s.close kind).extend more := by
  obtain ⟨cursor, tokens, brackets⟩ := s
  cases brackets with
  | nil => rfl
  | cons b brackets =>
    simp only [close, extend]
    split <;> rfl

theorem lastIs_extend (s : Lexer) (kind : TokenKind) :
    (s.extend more).lastIs kind = s.lastIs kind := rfl

theorem inBrackets_extend (s : Lexer) : (s.extend more).inBrackets = s.inBrackets := rfl

theorem atLineStart_extend (s : Lexer) : (s.extend more).atLineStart = s.atLineStart := rfl

theorem spanOf_extend (s : Lexer) (text : List Char) :
    (s.extend more).spanOf text = s.spanOf text := rfl

theorem lineBreak_extend (ha : s.ahead = '\n' :: rest) :
    (s.extend more).lineBreak = s.lineBreak.extend more := by
  have ha : s.ahead = ['\n'] ++ rest := ha
  rw [lineBreak, lineBreak, lastIs_extend, inBrackets_extend, extend_skip more ha,
    extend_emit more ha]
  split
  · rfl
  · split <;> rfl

theorem reserved_extend {symbol : Symbol} (ha : s.ahead = c :: rest) :
    (s.extend more).reserved symbol c = (s.reserved symbol c).extend more := by
  have ha : s.ahead = [c] ++ rest := ha
  cases symbol <;>
    simp only [reserved, Symbol.opens?, Symbol.closes?, spanOf_extend, extend_push,
      extend_close] <;>
    first
      | exact extend_emit more ha
      | exact extend_emit more ((ahead_close s _).trans ha)

theorem indentation_extend :
    (s.extend ('\n' :: more)).indentation = s.indentation.extend ('\n' :: more) := by
  have hsplit : s.ahead = s.ahead.takeWhile isIndent ++ s.ahead.dropWhile isIndent :=
    List.takeWhile_append_dropWhile.symm
  rw [indentation, indentation, ahead_extend, takeWhile_append_lineFeed more (by decide)]
  exact extend_emit _ hsplit

theorem lineComment_extend :
    (s.extend ('\n' :: more)).lineComment = s.lineComment.extend ('\n' :: more) := by
  have hsplit : s.ahead = s.ahead.takeWhile (· != '\n') ++ s.ahead.dropWhile (· != '\n') :=
    List.takeWhile_append_dropWhile.symm
  rw [lineComment, lineComment, ahead_extend, takeWhile_append_lineFeed more (by decide)]
  exact extend_skip _ hsplit

theorem number_extend (h : s.number = .ok t) :
    (s.extend ('\n' :: more)).number = .ok (t.extend ('\n' :: more)) := by
  rw [number] at h ⊢
  rw [ahead_extend, Number.read_append_lineFeed]
  split at h
  · next text hread =>
    cases h
    obtain ⟨rest, hrest⟩ := Number.prefix_of_read hread
    exact congrArg Except.ok (extend_emit _ hrest.symm)
  · cases h
  · cases h

theorem segment_extend {lead ahead : List Char} {quote : Span} (ha : s.ahead = lead ++ ahead)
    (h : s.segment named? lead quote = .ok t) :
    (s.extend ('\n' :: more)).segment named? lead quote = .ok (t.extend ('\n' :: more)) := by
  obtain ⟨rest, hlies⟩ := Segment.exists_lies named? ahead
  rw [segment] at h ⊢
  simp only [ahead_extend, ha, List.append_assoc, List.drop_left,
    Segment.read_append_lineFeed] at h ⊢
  generalize Segment.read named? ahead = segment at h hlies ⊢
  have hsplit : s.ahead = (lead ++ segment.text) ++ rest := by
    rw [ha, hlies.ahead_eq, List.append_assoc]
  rw [extend_emit _ hsplit]
  split at h
  · cases h
    rfl
  · next hending =>
    cases h
    obtain ⟨inner, rfl⟩ := hlies.interpolation hending
    have hopen : (s.emit (.text (String.ofList segment.content)) (lead ++ segment.text)).ahead =
        ['$', '\x7b'] ++ inner := ahead_emit hsplit
    rw [extend_emit _ hopen, extend_push]
  · cases h

theorem character_extend (ha : s.ahead = '\'' :: rest) (h : s.character named? = .ok t) :
    (s.extend ('\n' :: more)).character named? = .ok (t.extend ('\n' :: more)) := by
  rw [character] at h ⊢
  simp only [ahead_extend, ha, List.cons_append, List.tail_cons,
    CharacterBody.read?_append_lineFeed] at h ⊢
  split at h
  · cases h
  · next body hread =>
    obtain ⟨⟨behind, rfl⟩, -⟩ := CharacterBody.lies hread
    rw [List.drop_left] at h
    rw [List.append_assoc, List.drop_left]
    split at h
    · next hquote =>
      cases h
      obtain ⟨rest, rfl⟩ := List.head?_eq_some_iff.mp hquote
      have hsplit : s.ahead = ('\'' :: (body.text ++ ['\''])) ++ rest := by simp [ha]
      rw [List.cons_append, if_pos List.head?_cons, extend_emit _ hsplit]
    · cases h

theorem afterWord_extend (h : s.afterWord = .ok t) :
    (s.extend ('\n' :: more)).afterWord = .ok (t.extend ('\n' :: more)) := by
  rw [afterWord] at h ⊢
  rw [ahead_extend]
  split at h
  · next rest ha =>
    simp only [ha, List.cons_append, startsWithLetter_append_lineFeed,
      startsWithDigit_append_lineFeed]
    split at h
    · next hletter =>
      cases h
      have hsplit : s.ahead = ['.'] ++ rest := ha
      rw [if_pos hletter, extend_emit _ hsplit]
    · next hletter =>
      rw [if_neg hletter]
      split at h
      · next hdigit =>
        rw [if_pos hdigit]
        exact number_extend more h
      · next hdigit =>
        cases h
        rw [if_neg hdigit]
  · next hdot =>
    cases h
    split
    · next rest ha =>
      cases hs : s.ahead with
      | nil => simp [hs] at ha
      | cons c ahead =>
        rw [hs, List.cons_append] at ha
        exact absurd (hs.trans (congrArg (· :: ahead) (List.cons.inj ha).1)) (hdot ahead)
    · rfl

theorem word_extend (ha : s.ahead = c :: rest) (h : s.word c rest = .ok t) :
    (s.extend ('\n' :: more)).word c (rest ++ '\n' :: more) = .ok (t.extend ('\n' :: more)) := by
  rw [word] at h ⊢
  split at h
  · cases h
  · next k hk =>
    obtain ⟨behind, hbehind⟩ := wordTail_isPrefix k rest
    have hsplit : s.ahead = (c :: wordTail k rest) ++ behind := ha.trans (congrArg _ hbehind.symm)
    simp only [wordTail_append_lineFeed]
    rw [extend_emit _ hsplit]
    exact afterWord_extend more h

theorem blockComment_extend (ha : s.ahead = '/' :: '*' :: rest) (h : s.blockComment = .ok t) :
    (s.extend more).blockComment = .ok (t.extend more) := by
  rw [blockComment] at h ⊢
  simp only [ahead_extend, ha, List.cons_append, List.drop_succ_cons, List.drop_zero] at h ⊢
  split at h
  · next body hbody =>
    cases h
    obtain ⟨⟨behind, rfl⟩, -⟩ := commentBody?_sound hbody
    have hsplit : s.ahead = ('/' :: '*' :: body) ++ behind := ha
    rw [commentBody?_append more hbody]
    exact congrArg Except.ok (extend_skip _ hsplit)
  · cases h

theorem resume_extend {quote : Span} (ha : s.ahead = '\x7d' :: rest)
    (h : s.resume named? quote = .ok t) :
    (s.extend ('\n' :: more)).resume named? quote = .ok (t.extend ('\n' :: more)) := by
  have hsplit : (s.close .interpolation).ahead = ['\x7d'] ++ rest := (ahead_close s _).trans ha
  rw [resume] at h ⊢
  rw [extend_close, extend_emit _ hsplit]
  exact segment_extend more (List.nil_append _).symm h

/-- Two choices with one condition come to states that belong together if their branches do. -/
theorem ok_of_ite {p : Prop} [Decidable p] {x y x' y' : Except LexicalError Lexer} {t' : Lexer}
    (hthen : p → x = .ok t → x' = .ok t') (helse : ¬ p → y = .ok t → y' = .ok t')
    (h : (if p then x else y) = .ok t) : (if p then x' else y') = .ok t' := by
  split at h
  · next hp => rw [if_pos hp, hthen hp h]
  · next hp => rw [if_neg hp, helse hp h]

/-- A step does the same where a line feed and more text follow. -/
theorem step_extend (ha : s.ahead = c :: rest) (h : s.step named? c rest = .ok t) :
    (s.extend ('\n' :: more)).step named? c (rest ++ '\n' :: more) =
      .ok (t.extend ('\n' :: more)) := by
  have hbrackets : (s.extend ('\n' :: more)).brackets = s.brackets := rfl
  rw [step] at h ⊢
  simp only [atLineStart_extend, startsWithDigit_append_lineFeed, hbrackets,
    head?_append_lineFeed more (by decide : '/' ≠ '\n'),
    head?_append_lineFeed more (by decide : '*' ≠ '\n')]
  refine ok_of_ite (fun hc h => ?lineBreak) (fun _ => ok_of_ite (fun _ h => ?indentation) fun _ =>
    ok_of_ite (fun _ h => ?blank) fun _ => ok_of_ite (fun hc h => ?text) fun _ =>
    ok_of_ite (fun hc h => ?character) fun _ => ok_of_ite (fun _ h => ?number) fun _ =>
    ok_of_ite (fun _ h => ?lineComment) fun _ => ok_of_ite (fun hc h => ?blockComment) fun _ h =>
    ?other) h
  case lineBreak =>
    cases h
    rw [lineBreak_extend _ (hc ▸ ha)]
  case indentation =>
    cases h
    rw [indentation_extend]
  case blank =>
    cases h
    have hsplit : s.ahead = [c] ++ rest := ha
    rw [extend_skip _ hsplit]
  case text =>
    have hquote : s.ahead = ['"'] ++ rest := hc ▸ ha
    exact segment_extend more hquote h
  case character => exact character_extend more (hc ▸ ha) h
  case number => exact number_extend more h
  case lineComment =>
    cases h
    rw [lineComment_extend]
  case blockComment =>
    obtain ⟨rfl, hhead⟩ := hc
    obtain ⟨rest, rfl⟩ := List.head?_eq_some_iff.mp hhead
    exact blockComment_extend _ ha h
  case other =>
    split at h
    · next quote brackets hb hcurly =>
      exact resume_extend more (Symbol.eq_of_ofChar?_closeCurly hcurly ▸ ha) h
    · cases h
      rw [reserved_extend _ ha]
    · exact word_extend more ha h

/-- Steps up to the end of a text are made where a line feed and more text follow as well. -/
theorem Steps.extend (h : Steps named? s t) :
    Steps named? (s.extend ('\n' :: more)) (t.extend ('\n' :: more)) := by
  induction h with
  | refl => exact .refl
  | tail _ hstep ih =>
    obtain ⟨c, rest, ha, hstep⟩ := hstep
    exact ih.tail ⟨c, rest ++ '\n' :: more, by rw [ahead_extend, ha]; rfl,
      step_extend more ha hstep⟩

end Lexer

end Frontend
