import Frontend.Token.Lexer

/-!
# What the scanners read

Each scanner reads a text that lies directly ahead. Escape sequences, segments and character
literals stay on their line; a segment ends where it says; the body of a block comment ends at the
first end mark in it.
-/

namespace Frontend

variable {named? : String → Option Char}

/-! ### Escape sequences -/

namespace Escape

/-- The text lies directly ahead and stays on its line. -/
def Lies (ahead text : List Char) : Prop := text <+: ahead ∧ '\n' ∉ text

theorem lies_nil (ahead : List Char) : Lies ahead [] := ⟨List.nil_prefix, List.not_mem_nil⟩

theorem lies_cons {c : Char} {ahead text : List Char} (hc : c ≠ '\n') (h : Lies ahead text) :
    Lies (c :: ahead) (c :: text) :=
  ⟨(List.prefix_cons_inj c).mpr h.1, List.not_mem_cons_of_ne_of_not_mem hc.symm h.2⟩

/-- A stretch of characters that are no line feeds. -/
theorem lies_takeWhile {p : Char → Bool} (hp : p '\n' = false) {n : Nat} (ahead : List Char) :
    Lies ahead ((ahead.take n).takeWhile p) := by
  refine ⟨(List.takeWhile_prefix p).trans (List.take_prefix n ahead), ?_⟩
  intro hmem
  have hall := List.all_eq_true.mp (List.all_takeWhile (p := p)) _ hmem
  rw [hp] at hall
  cases hall

theorem lies_readNamed (ahead : List Char) : Lies ('N' :: ahead) (readNamed named? ahead).text := by
  have hN : Lies ('N' :: ahead) ['N'] := lies_cons (by decide) (lies_nil _)
  unfold readNamed
  split
  · next more =>
    have hname : Lies more (more.takeWhile isNameChar) := by
      have h := lies_takeWhile (p := isNameChar) (by decide) (n := more.length) more
      rwa [List.take_length] at h
    dsimp only
    split
    · next rest hrest =>
      have hmore := List.prefix_iff_eq_append.mp hname.1
      rw [hrest] at hmore
      generalize more.takeWhile isNameChar = name at hname hmore
      subst hmore
      exact ⟨⟨rest, by simp⟩, by simp [hname.2]⟩
    · exact hN
  · exact hN

/-- What belongs to a backslash lies directly behind it, on the same line. -/
theorem lies_read (ahead : List Char) : Lies ahead (read named? ahead).text := by
  unfold read
  split
  · exact lies_nil _
  · next c rest =>
    have hhex (size : Nat) (hc : c ≠ '\n') : Lies (c :: rest) (readHex c size rest).text :=
      lies_cons hc (lies_takeWhile (by decide) rest)
    split
    · next v hv =>
      refine lies_cons ?_ (lies_nil rest)
      rintro rfl
      simp [simple?] at hv
    · split
      · next hc => exact hc ▸ lies_readNamed rest
      · split
        · next hc => exact hhex 2 (by rw [hc]; decide)
        · split
          · next hc => exact hhex 4 (by rw [hc]; decide)
          · split
            · next hc => exact hhex 8 (by rw [hc]; decide)
            · split
              · exact lies_takeWhile (by decide) (c :: rest)
              · split
                · exact lies_nil _
                · next hc => exact lies_cons hc (lies_nil rest)

end Escape

/-! ### Literals -/

/-- The segment lies directly before the text `rest`, on one line, up to its quote or up to the
start of an interpolation. -/
structure Segment.Lies (ahead : List Char) (s : Segment) (rest : List Char) : Prop where
  ahead_eq : ahead = s.text ++ rest
  line : '\n' ∉ s.text
  quote : s.ending = .quote → ∃ body, s.text = body ++ ['"']
  interpolation : s.ending = .interpolation → ∃ more, rest = '$' :: '\x7b' :: more

theorem Segment.exists_lies (named? : String → Option Char) (ahead : List Char) :
    ∃ rest, (read named? ahead).Lies ahead rest := by
  fun_induction read named? ahead with
  | case1 => exact ⟨[], rfl, by simp, nofun, nofun⟩
  | case2 rest => exact ⟨'\n' :: rest, rfl, by simp, nofun, nofun⟩
  | case3 rest => exact ⟨rest, rfl, by simp, fun _ => ⟨[], rfl⟩, nofun⟩
  | case4 rest e s _ _ ih =>
    obtain ⟨more, ih⟩ := ih
    obtain ⟨hlead, hline⟩ : Escape.Lies rest e.text := Escape.lies_read rest
    have hrest : e.text ++ rest.drop e.text.length = rest := List.prefix_iff_eq_append.mp hlead
    refine ⟨more, ?_, ?_, fun hq => ?_, ih.interpolation⟩
    · rw [← hrest, ih.ahead_eq]
      simp [s]
    · simp [e, s, hline, ih.line]
    · obtain ⟨body, hbody⟩ := ih.quote hq
      exact ⟨'\\' :: e.text ++ body, by simp [s, hbody]⟩
  | case5 c rest hn hq he hi =>
    obtain ⟨rfl, hhead⟩ := hi
    cases rest with
    | nil => simp at hhead
    | cons d more =>
      obtain rfl : d = '\x7b' := by simpa using hhead
      exact ⟨_, rfl, by simp, nofun, fun _ => ⟨more, rfl⟩⟩
  | case6 c rest hn hq he hi s ih =>
    obtain ⟨more, ih⟩ := ih
    refine ⟨more, congrArg (c :: ·) ih.ahead_eq, ?_, fun hend => ?_, ih.interpolation⟩
    · exact List.not_mem_cons_of_ne_of_not_mem (Ne.symm hn) ih.line
    · obtain ⟨body, hbody⟩ := ih.quote hend
      exact ⟨c :: body, by simp [s, hbody]⟩

/-- The body of a character literal lies directly ahead, on the same line. -/
theorem CharacterBody.lies {ahead : List Char} {body : CharacterBody}
    (h : read? named? ahead = some body) : Escape.Lies ahead body.text := by
  unfold read? at h
  split at h
  · cases h
  · next c rest =>
    split at h
    · next hc =>
      cases h
      exact Escape.lies_cons (by rw [hc]; decide) (Escape.lies_read rest)
    · split at h
      · cases h
      · next hc =>
        cases h
        exact Escape.lies_cons (fun hn => hc (.inr hn)) (Escape.lies_nil rest)

/-! ### Numbers and words -/

theorem Number.prefix_of_read {ahead text : List Char} (h : read ahead = .ok text) :
    text <+: ahead := by
  have hwhole : ahead.takeWhile Char.isDigit <+: ahead := List.takeWhile_prefix _
  rw [read] at h
  dsimp only at h
  split at h
  · next rest hrest =>
    have hahead := List.prefix_iff_eq_append.mp hwhole
    rw [hrest] at hahead
    have hfraction : rest.takeWhile Char.isDigit <+: rest := List.takeWhile_prefix _
    split at h
    · cases h
    · split at h
      · cases h
      · cases h
        have hnumber := (List.prefix_append_right_inj (ahead.takeWhile Char.isDigit)).mpr
          ((List.prefix_cons_inj '.').mpr hfraction)
        rwa [hahead] at hnumber
  · cases h
    exact hwhole

/-- A number that ends in a dot: no digit follows. -/
theorem Number.final_of_read {ahead text : List Char} (h : read ahead = .error (.finalDot text)) :
    ∃ whole rest, text = whole ++ ['.'] ∧ ahead = text ++ rest ∧
      ∀ c ∈ rest.head?, c.isDigit = false := by
  have hahead : ahead.takeWhile Char.isDigit ++ ahead.drop (ahead.takeWhile Char.isDigit).length =
      ahead := List.prefix_iff_eq_append.mp (List.takeWhile_prefix _)
  rw [read] at h
  dsimp only at h
  split at h
  · next rest hrest =>
    rw [hrest] at hahead
    split at h
    · next hempty =>
      cases h
      refine ⟨_, rest, rfl, by simp [hahead], fun c hc => ?_⟩
      obtain ⟨more, rfl⟩ := List.head?_eq_some_iff.mp hc
      simpa [List.takeWhile_cons] using hempty
    · split at h <;> cases h
  · cases h

/-- A number with a second dot: there are digits behind the first one. -/
theorem Number.several_of_read {ahead text : List Char}
    (h : read ahead = .error (.severalDots text)) :
    ∃ whole fraction rest, text = whole ++ '.' :: fraction ∧ ahead = text ++ '.' :: rest ∧
      (∀ c ∈ whole, c.isDigit = true) ∧ (∀ c ∈ fraction, c.isDigit = true) ∧ fraction ≠ [] := by
  have hsplit (text : List Char) : text.takeWhile Char.isDigit ++
      text.drop (text.takeWhile Char.isDigit).length = text :=
    List.prefix_iff_eq_append.mp (List.takeWhile_prefix _)
  have hdigits (text : List Char) : ∀ c ∈ text.takeWhile Char.isDigit, c.isDigit = true :=
    List.all_eq_true.mp List.all_takeWhile
  have hahead := hsplit ahead
  rw [read] at h
  dsimp only at h
  split at h
  · next rest hrest =>
    have hfraction := hsplit rest
    split at h
    · cases h
    · next hne =>
      split at h
      · next more hmore =>
        cases h
        rw [hrest] at hahead
        rw [hmore] at hfraction
        refine ⟨_, _, more, rfl, ?_, hdigits ahead, hdigits rest, by simpa using hne⟩
        rw [List.append_assoc, List.cons_append, hfraction, hahead]
      · cases h
  · cases h

theorem Lexer.wordTail_isPrefix (k : WordClass) (ahead : List Char) :
    wordTail k ahead <+: ahead := by
  induction ahead with
  | nil => exact List.prefix_rfl
  | cons c rest ih =>
    rw [wordTail]
    split
    · exact List.nil_prefix
    · split
      · exact List.nil_prefix
      · split
        · exact (List.prefix_cons_inj c).mpr ih
        · exact List.nil_prefix

/-! ### Comments -/

/-- A text ends with the end mark of a block comment, and there is no other one in it. -/
def EndsComment (body : List Char) : Prop :=
  ∃ inner, body = inner ++ ['*', '/'] ∧ ¬ ['*', '/'] <:+: inner ++ ['*']

theorem Lexer.commentBody?_sound {ahead body : List Char} (h : commentBody? ahead = some body) :
    body <+: ahead ∧ EndsComment body := by
  induction ahead generalizing body with
  | nil => cases h
  | cons c rest ih =>
    rw [commentBody?] at h
    split at h
    · next hend =>
      cases h
      obtain ⟨rfl, hhead⟩ := hend
      cases rest with
      | nil => simp at hhead
      | cons d rest =>
        obtain rfl : d = '/' := by simpa using hhead
        refine ⟨⟨rest, rfl⟩, [], rfl, ?_⟩
        rintro ⟨s, t, h⟩
        have hlength := congrArg List.length h
        simp at hlength
        omega
    · next hend =>
      obtain ⟨tail, htail, rfl⟩ := Option.map_eq_some_iff.mp h
      obtain ⟨hlead, inner, rfl, hfirst⟩ := ih htail
      refine ⟨(List.prefix_cons_inj c).mpr hlead, c :: inner, rfl, ?_⟩
      rw [List.cons_append, List.infix_cons_iff]
      rintro (hmark | hmark)
      · obtain ⟨rfl, hslash⟩ := List.cons_prefix_cons.mp hmark
        -- The end mark would already have been found at the first star.
        refine hend ⟨rfl, ?_⟩
        obtain ⟨more, rfl⟩ := hlead
        cases inner with
        | nil => simp at hslash
        | cons d inner =>
          obtain ⟨rfl, -⟩ := List.cons_prefix_cons.mp hslash
          rfl
      · exact hfirst hmark

/-- A block comment is not closed only where there is no end mark. -/
theorem Lexer.not_isInfix_of_commentBody? {ahead : List Char} (h : commentBody? ahead = none) :
    ¬ ['*', '/'] <:+: ahead := by
  induction ahead with
  | nil => exact fun hmark => nomatch List.infix_nil.mp hmark
  | cons c rest ih =>
    rw [commentBody?] at h
    split at h
    · cases h
    · next hend =>
      rw [List.infix_cons_iff]
      rintro (hmark | hmark)
      · obtain ⟨rfl, more, hmore⟩ := List.cons_prefix_cons.mp hmark
        exact hend ⟨rfl, by rw [← hmore]; rfl⟩
      · exact ih (Option.map_eq_none_iff.mp h) hmark

end Frontend
