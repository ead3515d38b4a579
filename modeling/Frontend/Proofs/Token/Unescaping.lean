import Frontend.Proofs.Token.Escape
import Frontend.Proofs.Token.Moves

/-!
# Escaped text as it is read

A text is written with the escape sequences of one alphabet and read with those of another.
`Text.reread` is what is read of its escaped form: a code point in curly brackets is no sequence,
and stands for itself; and a null character takes the octal digits behind it as its own. All else is
read as it was, and a text is read back just if neither of the two occurs
(`Text.reread_eq_self_iff`).
-/

namespace Frontend

/-! ### Digits -/

theorem exists_digitChar_of_mem_toDigits {base n : Nat} (hbase : 1 < base) {c : Char}
    (hc : c ∈ Nat.toDigits base n) : ∃ d < base, c = Nat.digitChar d := by
  induction n using Nat.strongRecOn with
  | ind n ih =>
    rw [Nat.toDigits_eq_if hbase] at hc
    split at hc
    · next hn => exact ⟨n, hn, List.mem_singleton.mp hc⟩
    · next hn =>
      rcases List.mem_append.mp hc with hc | hc
      · exact ih (n / base) (Nat.div_lt_self (by omega) hbase) hc
      · exact ⟨n % base, Nat.mod_lt n (by omega), List.mem_singleton.mp hc⟩

namespace Text

open Escape (isOctalDigit ofDigits)

theorem mem_of_isOctalDigit {c : Char} (hc : isOctalDigit c) :
    c ∈ ['0', '1', '2', '3', '4', '5', '6', '7'] := by
  have hall : ∀ n < 128, isOctalDigit (Char.ofNat n) →
      Char.ofNat n ∈ ['0', '1', '2', '3', '4', '5', '6', '7'] := by decide
  obtain ⟨d, hd, hchar⟩ := Escape.isOctalDigit_iff.mp hc
  have hlt := Escape.toNat_lt_of_toLower (Nat.lt_trans hd (by decide)) hchar
  exact Escape.forall_of_toNat_lt (P := fun c => isOctalDigit c → c ∈ _) hall hlt hc

/-! ### What is read of the escaped form -/

/-- The octal digits that a null character in front of a text takes from it when it is read. -/
def takenDigits (text : List Char) : List Char := (text.take 2).takeWhile isOctalDigit

theorem takenDigits_append (text : List Char) :
    takenDigits text ++ text.drop (takenDigits text).length = text :=
  List.prefix_iff_eq_append.mp ((List.takeWhile_prefix _).trans (List.take_prefix 2 text))

theorem forall_mem_takenDigits (text : List Char) : ∀ c ∈ takenDigits text, isOctalDigit c :=
  Escape.forall_mem_takeWhile_take 2 text

theorem head?_takenDigits (text : List Char) :
    (takenDigits text).head? = text.head?.filter isOctalDigit := by
  cases text with
  | nil => rfl
  | cons c rest => by_cases hc : isOctalDigit c <;> simp [takenDigits, Option.filter, hc]

theorem length_takenDigits_le (text : List Char) : (takenDigits text).length ≤ 2 :=
  Nat.le_trans (List.takeWhile_prefix _).length_le (List.length_take_le 2 text)

theorem length_takenDigits_eq_or (text : List Char) : (takenDigits text).length = 2 ∨
    ∀ c ∈ (text.drop (takenDigits text).length).head?, isOctalDigit c = false :=
  Escape.length_takeWhile_take 2 text

/-- What is read of the escaped form of a text. -/
def reread (text : List Char) : List Char :=
  match text with
  | []        => []
  | c :: rest =>
    if escapeChar c = codePointEscape c then codePointEscape c ++ reread rest
    else if c = '\x00' then
      Char.ofNat (ofDigits 8 ('0' :: takenDigits rest)) ::
        reread (rest.drop (takenDigits rest).length)
    else c :: reread rest
termination_by text.length
decreasing_by
  · exact Nat.lt_succ_self _
  · rw [List.length_drop, List.length_cons]
    omega
  · exact Nat.lt_succ_self _

/-- Null characters and octal digits in front of a text are never made up for by what is read of the
rest of it. -/
theorem reread_ne_append {front : List Char} (text : List Char) (hne : front ≠ [])
    (hfront : ∀ c ∈ front, c = '\x00' ∨ isOctalDigit c) : reread text ≠ front ++ text := by
  -- each character of the text goes to the end of the front, which so never comes to an end
  fun_induction reread text generalizing front with
  | case1 => simpa using hne
  | case2 c rest hcode ih =>
    intro h
    obtain ⟨d, front, rfl⟩ := List.exists_cons_of_ne_nil hne
    obtain rfl : '\\' = d := (List.cons.inj h).1
    exact absurd (hfront _ List.mem_cons_self) (by decide)
  | case3 rest hcode ih =>
    intro h
    obtain ⟨d, front, rfl⟩ := List.exists_cons_of_ne_nil hne
    refine @ih (front ++ '\x00' :: takenDigits rest) (by simp) (fun c hc => ?_) ?_
    · rcases List.mem_append.mp hc with hc | hc
      · exact hfront c (List.mem_cons_of_mem d hc)
      · exact (List.mem_cons.mp hc).imp id (forall_mem_takenDigits rest c)
    · rw [List.append_assoc, List.cons_append, takenDigits_append]
      exact (List.cons.inj h).2
  | case4 c rest hcode hnull ih =>
    intro h
    obtain ⟨d, front, rfl⟩ := List.exists_cons_of_ne_nil hne
    obtain ⟨rfl, h⟩ := List.cons.inj h
    refine @ih (front ++ [c]) (by simp) (fun d hd => hfront d ?_) (by simpa using h)
    simpa [or_comm] using hd

theorem isPlain_cons {c : Char} {rest : List Char} (h : escapeChar c ≠ codePointEscape c) :
    IsPlain (c :: rest) ↔
      (∀ d ∈ rest.head?, c = '\x00' → isOctalDigit d = false) ∧ IsPlain rest := by
  refine ⟨fun ⟨hcode, hoctal⟩ => ?_, fun ⟨hhead, hcode, hoctal⟩ => ?_⟩
  · obtain ⟨hhead, hoctal⟩ := List.isChain_cons.mp hoctal
    exact ⟨hhead, fun d hd => hcode d (List.mem_cons_of_mem c hd), hoctal⟩
  · exact ⟨List.forall_mem_cons.mpr ⟨h, hcode⟩, List.isChain_cons.mpr ⟨hhead, hoctal⟩⟩

/-- A text is read back from its escaped form just if it can be written without code points. -/
theorem reread_eq_self_iff {text : List Char} : reread text = text ↔ IsPlain text := by
  fun_induction reread text with
  | case1 => exact ⟨fun _ => ⟨nofun, .nil⟩, fun _ => rfl⟩
  | case2 c rest hcode ih =>
    refine ⟨fun h => ?_, fun h => absurd hcode (h.noCodePoint c List.mem_cons_self)⟩
    obtain rfl : '\\' = c := (List.cons.inj h).1
    exact absurd hcode (by decide +kernel)
  | case3 rest hcode ih =>
    rw [isPlain_cons hcode]
    have hhead := head?_takenDigits rest
    cases htaken : takenDigits rest with
    | nil =>
      have hoctal : ∀ d ∈ rest.head?, '\x00' = '\x00' → isOctalDigit d = false := by
        intro d hd _
        simpa [htaken, Option.mem_def.mp hd, Option.filter] using hhead
      have hnull : Char.ofNat (ofDigits 8 ['0']) = '\x00' := by decide
      rw [htaken, List.length_nil, List.drop_zero] at ih
      rw [List.length_nil, List.drop_zero, and_iff_right hoctal, ← ih, hnull, List.cons_inj_right]
    | cons d digits =>
      have hne : takenDigits rest ≠ [] := by simp [htaken]
      refine ⟨fun h => ?_, fun ⟨hoctal, _⟩ => ?_⟩
      · refine absurd ?_ (reread_ne_append (rest.drop (takenDigits rest).length) hne
          fun c hc => .inr (forall_mem_takenDigits rest c hc))
        rw [takenDigits_append, htaken]
        exact (List.cons.inj h).2
      · rw [htaken, List.head?_cons] at hhead
        obtain ⟨hd, hdigit⟩ := Option.filter_eq_some_iff.mp hhead.symm
        exact absurd hdigit (by simp [hoctal d hd rfl])
  | case4 c rest hcode hnull ih =>
    rw [isPlain_cons hcode, ← ih, List.cons_inj_right]
    exact (and_iff_right fun d _ hc => absurd hc hnull).symm

/-- Two octal digits behind a null character, and no third one, are read with it. -/
example : reread ['\x00', '1', '1', '1'] = ['\t', '1'] := by decide +kernel

/-- A code point is written in curly brackets, and behind its marker nothing has a meaning in a text
literal. -/
theorem exists_codePointEscape (c : Char) :
    ∃ body, codePointEscape c = '\\' :: 'u' :: '\x7b' :: body ∧
      ∀ d ∈ body, d ≠ '\n' ∧ d ≠ '"' ∧ d ≠ '\\' ∧ d ≠ '$' := by
  refine ⟨Nat.toDigits 16 c.toNat ++ ['\x7d'], rfl, fun d hd => ?_⟩
  have hdigits : ∀ n < 16, Nat.digitChar n ≠ '\n' ∧ Nat.digitChar n ≠ '"' ∧
      Nat.digitChar n ≠ '\\' ∧ Nat.digitChar n ≠ '$' := by decide
  rcases List.mem_append.mp hd with hd | hd
  · obtain ⟨n, hn, rfl⟩ := exists_digitChar_of_mem_toDigits (by decide) hd
    exact hdigits n hn
  · rw [List.mem_singleton.mp hd]
    decide

theorem escapeLiteralChar_of_codePoint {c : Char} (h : escapeChar c = codePointEscape c) :
    escapeLiteralChar c = codePointEscape c := by
  rw [escapeLiteralChar, if_neg, h]
  rintro rfl
  revert h
  decide +kernel

theorem escapeLiteralChar_of_isOctalDigit {c : Char} (h : isOctalDigit c) :
    escapeLiteralChar c = [c] := by
  have hall : (['0', '1', '2', '3', '4', '5', '6', '7'].all
      fun c => escapeLiteralChar c == [c]) = true := by decide +kernel
  exact eq_of_beq (List.all_eq_true.mp hall c (mem_of_isOctalDigit h))

theorem flatMap_escapeLiteralChar_of_isOctalDigit {digits : List Char}
    (h : ∀ c ∈ digits, isOctalDigit c) : digits.flatMap escapeLiteralChar = digits := by
  induction digits with
  | nil => rfl
  | cons c digits ih =>
    obtain ⟨hc, hdigits⟩ := List.forall_mem_cons.mp h
    rw [List.flatMap_cons, ih hdigits, escapeLiteralChar_of_isOctalDigit hc, List.singleton_append]

theorem flatMap_escapeLiteralChar_eq (text : List Char) : text.flatMap escapeLiteralChar =
    takenDigits text ++ (text.drop (takenDigits text).length).flatMap escapeLiteralChar := by
  conv_lhs => rw [← takenDigits_append text]
  rw [List.flatMap_append, flatMap_escapeLiteralChar_of_isOctalDigit (forall_mem_takenDigits text)]

end Text

namespace Segment

open Escape (isOctalDigit ofDigits)

variable {named? : String → Option Char} {rest : List Char}

/-- Characters that have no meaning in a text literal are read as they are. -/
theorem read_literals {text : List Char}
    (h : ∀ c ∈ text, c ≠ '\n' ∧ c ≠ '"' ∧ c ≠ '\\' ∧ c ≠ '$') :
    read named? (text ++ rest) = ⟨text ++ (read named? rest).text,
      text ++ (read named? rest).content, (read named? rest).ending⟩ := by
  induction text with
  | nil => rfl
  | cons c text ih =>
    obtain ⟨⟨hfeed, hquote, hbackslash, hdollar⟩, htext⟩ := List.forall_mem_cons.mp h
    rw [List.cons_append, read_literal hfeed hquote hbackslash hdollar, ih htext]
    rfl

/-- A code point in curly brackets is read as it is written. -/
theorem read_codePointEscape (c : Char) :
    read named? (Text.codePointEscape c ++ rest) =
      ⟨Text.codePointEscape c ++ (read named? rest).text,
        Text.codePointEscape c ++ (read named? rest).content, (read named? rest).ending⟩ := by
  obtain ⟨body, hbody, hliterals⟩ := Text.exists_codePointEscape c
  have hescape : Escape.read named? ('u' :: '\x7b' :: (body ++ rest)) = ⟨['u'], none⟩ := rfl
  have hbrace : read named? ('\x7b' :: body ++ rest) = _ :=
    read_literals (List.forall_mem_cons.mpr ⟨by decide, hliterals⟩)
  rw [List.cons_append] at hbrace
  rw [hbody, List.cons_append, List.cons_append, List.cons_append, read, if_neg (by decide),
    if_neg (by decide), if_pos rfl]
  simp only [hescape, List.length_singleton, List.drop_succ_cons, List.drop_zero, hbrace]
  rfl

/-- A null character takes up to two octal digits behind it. -/
theorem read_octal {digits : List Char} (hdigits : ∀ c ∈ digits, isOctalDigit c)
    (hsize : digits.length ≤ 2)
    (hend : digits.length = 2 ∨ ∀ c ∈ rest.head?, isOctalDigit c = false) :
    read named? ('\\' :: '0' :: (digits ++ rest)) =
      ⟨'\\' :: '0' :: digits ++ (read named? rest).text,
        Char.ofNat (ofDigits 8 ('0' :: digits)) :: (read named? rest).content,
        (read named? rest).ending⟩ := by
  have hall : ∀ c ∈ '0' :: digits, isOctalDigit c := List.forall_mem_cons.mpr ⟨by decide, hdigits⟩
  have htake : (('0' :: (digits ++ rest)).take 3).takeWhile isOctalDigit = '0' :: digits :=
    Escape.takeWhile_take_append (n := 3) hall (Nat.succ_le_succ hsize) (hend.imp (by simp) id)
  have hescape : Escape.read named? ('0' :: (digits ++ rest)) =
      ⟨'0' :: digits, some (Char.ofNat (ofDigits 8 ('0' :: digits)))⟩ := by
    rw [Escape.read_of_isOctalDigit (by decide), Escape.readOctal, htake, Escape.scalar?, if_pos]
    have hlt := Escape.ofDigits_lt (by decide) (by decide) fun c hc =>
      Escape.isOctalDigit_iff.mp (hall c hc)
    have hpow : 8 ^ ('0' :: digits).length ≤ 8 ^ 3 :=
      Nat.pow_le_pow_right (by decide) (Nat.succ_le_succ hsize)
    exact .inl (Nat.lt_of_lt_of_le hlt (Nat.le_trans hpow (by decide)))
  rw [read, if_neg (by decide), if_neg (by decide), if_pos rfl]
  simp only [hescape]
  simp [Escape.content]

theorem head?_escapeLiteralChar_ne {c : Char} (hc : isOctalDigit c = false) :
    ∀ d ∈ (Text.escapeLiteralChar c ++ rest).head?, isOctalDigit d = false := by
  by_cases h : Text.escapeChar c = Text.codePointEscape c
  · rw [Text.escapeLiteralChar_of_codePoint h]
    rintro _ ⟨⟩
    rfl
  · exact head?_escapeLiteralChar h hc

theorem head?_flatMap_escapeLiteralChar_ne {text more : List Char}
    (htext : ∀ c ∈ text.head?, isOctalDigit c = false)
    (hmore : ∀ c ∈ more.head?, isOctalDigit c = false) :
    ∀ c ∈ (text.flatMap Text.escapeLiteralChar ++ more).head?, isOctalDigit c = false := by
  cases text with
  | nil => exact hmore
  | cons c text =>
    rw [List.flatMap_cons, List.append_assoc]
    exact head?_escapeLiteralChar_ne (htext c rfl)

/-- The escaped form of a text is read as `Text.reread` says. -/
theorem read_reread (text : List Char) {more : List Char}
    (hmore : ∀ c ∈ more.head?, isOctalDigit c = false) :
    read named? (text.flatMap Text.escapeLiteralChar ++ more) =
      ⟨text.flatMap Text.escapeLiteralChar ++ (read named? more).text,
        Text.reread text ++ (read named? more).content, (read named? more).ending⟩ := by
  fun_induction Text.reread text with
  | case1 => rfl
  | case2 c rest hcode ih =>
    rw [List.flatMap_cons, List.append_assoc, Text.escapeLiteralChar_of_codePoint hcode,
      read_codePointEscape, ih]
    simp
  | case3 rest hcode ih =>
    have hnull : Text.escapeLiteralChar '\x00' = ['\\', '0'] := by decide
    have hend := (Text.length_takenDigits_eq_or rest).imp id fun hend =>
      head?_flatMap_escapeLiteralChar_ne hend hmore
    rw [List.flatMap_cons, hnull, Text.flatMap_escapeLiteralChar_eq rest, List.append_assoc,
      List.append_assoc]
    rw [List.cons_append, List.cons_append, List.nil_append,
      read_octal (Text.forall_mem_takenDigits rest) (Text.length_takenDigits_le rest) hend, ih]
    simp
  | case4 c rest hcode hnull ih =>
    rw [List.flatMap_cons, List.append_assoc, read_escapeLiteralChar hcode hnull, ih]
    simp

/-- What is written for the content of a segment is read as that content. -/
theorem read_escaped {content more : List Char} (h : Text.IsPlain content)
    (hmore : ∀ c ∈ more.head?, isOctalDigit c = false) :
    read named? (content.flatMap Text.escapeLiteralChar ++ more) =
      ⟨content.flatMap Text.escapeLiteralChar ++ (read named? more).text,
        content ++ (read named? more).content, (read named? more).ending⟩ := by
  rw [read_reread content hmore, Text.reread_eq_self_iff.mpr h]

end Segment

/-- A text literal without interpolations, read in one step. -/
theorem Lexer.step_of_segment {named? : String → Option Char} {s : Lexer} {body : List Char}
    {segment : Segment} (ha : s.ahead = '"' :: body) (hsegment : Segment.read named? body = segment)
    (hending : segment.ending = .quote) :
    s.step named? '"' body =
      .ok (s.emit (.text (String.ofList segment.content)) ('"' :: segment.text)) := by
  rw [step_quote, Lexer.segment]
  simp only [ha, List.length_singleton, List.drop_one, List.tail_cons, hsegment, hending]
  rfl

/-- The escaped form of a text between quotes is always one text literal and nothing else. What is
read of it is the text just if no character of the text is written as its code point and no octal
digit directly follows a null character. -/
theorem exists_lexWith_escapeLiteral (named? : String → Option Char) (text : String) :
    let source := "\"" ++ Text.escapeLiteral text ++ "\""
    ∃ content : String,
      lexWith named? source = .ok [⟨.text content, .ofText .origin source.toList⟩,
        ⟨.endOfInput, .empty (Position.origin.after source.toList)⟩] ∧
      (content = text ↔ Text.IsPlain text.toList) := by
  intro source
  set body := text.toList.flatMap Text.escapeLiteralChar ++ ['"'] with hbody
  have hsource : source.toList = '"' :: body := by simp [source, hbody, Text.toList_escapeLiteral]
  have hend : Segment.read named? ['"'] = ⟨['"'], [], .quote⟩ := by simp [Segment.read]
  have hsegment : Segment.read named? body = ⟨body, Text.reread text.toList, .quote⟩ := by
    rw [hbody, Segment.read_reread text.toList (by rintro _ ⟨⟩; decide), hend, List.append_nil]
  have hahead : (Lexer.ofText source.toList).ahead = '"' :: body := hsource
  have hstep := Lexer.step_of_segment hahead hsegment rfl
  refine ⟨String.ofList (Text.reread text.toList), ?_, ?_⟩
  · rw [lexWith, Lexer.run_of_step hahead hstep, Lexer.run_of_nil, Lexer.finish, hsource]
    · rfl
    · exact Lexer.ahead_emit (hahead.trans (List.append_nil _).symm)
  · rw [← Text.reread_eq_self_iff, ← String.toList_inj, String.toList_ofList]

end Frontend
