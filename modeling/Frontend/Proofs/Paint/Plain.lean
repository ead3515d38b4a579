import Frontend.Paint.Painter
import Frontend.Text.Split

/-!
# The text of paintings

Styles aside, a painting is a text, which a painter that does not colorize writes as it is. One that
does puts escape sequences into it, though none into a text that is written at once
(`Painting.isInfix_toText`), and the text is what is left when they are erased
(`Painter.eraseSequences_paint`). If styles are nested in a painting, a painter has the same styles
set before and after it (`Painting.WellNested.run_fst`).
-/

namespace Frontend

/-- What an instruction writes, styles aside. -/
def Instruction.written : Instruction → String
  | .write t => t
  | .set _   => ""
  | .unset   => ""

namespace Painting

/-- The text of a painting, styles aside. -/
def plain (p : Painting) : String := String.join (p.map Instruction.written)

@[simp] theorem plain_append (p q : Painting) : (p ++ q).plain = p.plain ++ q.plain := by
  simp [plain]

@[simp] theorem plain_text (t : String) : (text t).plain = t := by
  simp [plain, text, Instruction.written]

@[simp] theorem plain_styledText (style : Style) (t : String) : (styledText style t).plain = t := by
  simp [plain, styledText, styled, text, Instruction.written]

@[simp] theorem plain_flatMap {α : Type} (f : α → Painting) (as : List α) :
    plain (as.flatMap f) = String.join (as.map fun a => (f a).plain) := by
  induction as with
  | nil => rfl
  | cons a as ih => simp [ih]

theorem plain_cons (i : Instruction) (p : Painting) : plain (i :: p) = i.written ++ plain p := by
  simp [plain]

end Painting

/-! ### Without colours -/

theorem Painter.step_of_not_colorize {p : Painter} (h : p.colorize = false) (i : Instruction) :
    p.step i = (p, i.written) := by
  cases i with
  | write t => rfl
  | set style => simp [step, h, Instruction.written]
  | unset =>
    rw [step]
    split
    · simp [h, Instruction.written]
    · rfl

theorem Painter.run_of_not_colorize {p : Painter} (h : p.colorize = false) (painting : Painting) :
    p.run painting = (p, painting.map Instruction.written) := by
  induction painting with
  | nil => rfl
  | cons i is ih =>
    rw [run, step_of_not_colorize h]
    simp [ih]

/-- Without colours, the text alone is written. -/
theorem Painting.toText_eq_plain {c : ColorChoice} (h : c.colorizes = false) (p : Painting) :
    p.toText c = p.plain := by
  rw [toText, Painter.paint, Painter.run_of_not_colorize h]
  rfl

/-! ### With or without colours -/

theorem Painter.isInfix_run {t : String} {painting : Painting} (h : .write t ∈ painting)
    (painter : Painter) : t.toList <:+: (String.join (painter.run painting).2).toList := by
  induction painting generalizing painter with
  | nil => cases h
  | cons i is ih =>
    rw [run, String.join_cons, String.toList_append]
    rcases List.mem_cons.mp h with rfl | h
    · exact (List.prefix_append _ _).isInfix
    · exact (ih h _).trans (List.suffix_append _ _).isInfix

/-- A text that is written at once stands in the text of the painting, whatever the colours. -/
theorem Painting.isInfix_toText {t : String} {p : Painting} (h : .write t ∈ p) (c : ColorChoice) :
    t.toList <:+: (p.toText c).toList :=
  Painter.isInfix_run h _

/-! ### Nested styles -/

/-- Every style that is set in the painting is unset in it, behind all that is painted in the
style. -/
inductive Painting.WellNested : Painting → Prop
  | nil : WellNested []
  | text (t : String) : WellNested (text t)
  | styled (style : Style) {body : Painting} (h : WellNested body) : WellNested (styled style body)
  | append {p q : Painting} (hp : WellNested p) (hq : WellNested q) : WellNested (p ++ q)

theorem Painting.WellNested.styledText (style : Style) (t : String) :
    WellNested (Painting.styledText style t) :=
  .styled style (.text t)

theorem Painting.WellNested.flatMap {α : Type} {f : α → Painting} (as : List α)
    (h : ∀ a ∈ as, WellNested (f a)) : WellNested (as.flatMap f) := by
  induction as with
  | nil => exact .nil
  | cons a as ih =>
    obtain ⟨ha, has⟩ := List.forall_mem_cons.mp h
    exact .append ha (ih has)

theorem Painter.run_append (painter : Painter) (p q : Painting) :
    painter.run (p ++ q) = (((painter.run p).1.run q).1,
      (painter.run p).2 ++ ((painter.run p).1.run q).2) := by
  induction p generalizing painter with
  | nil => rfl
  | cons i is ih => simp [run, ih]

/-- A painter has the same styles set before and after a painting with nested styles. -/
theorem Painting.WellNested.run_fst {p : Painting} (h : p.WellNested) (painter : Painter) :
    (painter.run p).1 = painter := by
  induction h generalizing painter with
  | nil => rfl
  | text t => rfl
  | append hp hq ihp ihq => rw [Painter.run_append, ihp, ihq]
  | @styled style body h ih =>
    obtain ⟨colorize, styles⟩ := painter
    cases colorize with
    | false => rw [Painter.run_of_not_colorize rfl]
    | true =>
      rw [Painting.styled, Painter.run_append, Painter.run]
      simp [Painter.step, Painter.run, ih]

/-! ### Erasing escape sequences -/

namespace Text

/-- The text behind an escape sequence, if the text begins with one: an escape character, a square
bracket, decimal digits and the letter `m`. -/
def afterSequence? (text : List Char) : Option (List Char) :=
  (after? ['\x1b', '['] text).bind fun rest =>
    let digits := rest.takeWhile Char.isDigit
    if digits.isEmpty then none else after? ['m'] (rest.drop digits.length)

theorem afterSequence?_eq_some_iff {text rest : List Char} :
    afterSequence? text = some rest ↔ ∃ digits, digits ≠ [] ∧ (∀ d ∈ digits, d.isDigit) ∧
      text = '\x1b' :: '[' :: digits ++ 'm' :: rest := by
  constructor
  · intro h
    obtain ⟨ahead, hahead, h⟩ := Option.bind_eq_some_iff.mp h
    rw [after?_eq_some_iff] at hahead
    dsimp only at h
    split at h
    · cases h
    · next hne =>
      rw [after?_eq_some_iff] at h
      have hsplit : ahead.takeWhile Char.isDigit ++ ahead.drop _ = ahead :=
        List.prefix_iff_eq_append.mp (List.takeWhile_prefix Char.isDigit)
      rw [h] at hsplit
      exact ⟨ahead.takeWhile Char.isDigit, by simpa using hne,
        List.all_eq_true.mp List.all_takeWhile,
        hahead.trans (congrArg (['\x1b', '['] ++ ·) hsplit.symm)⟩
  · rintro ⟨digits, hne, hdigits, rfl⟩
    have htake : (digits ++ 'm' :: rest).takeWhile Char.isDigit = digits := by
      rw [List.takeWhile_append_of_pos hdigits, List.takeWhile_cons_of_neg (by decide),
        List.append_nil]
    have hsequence : after? ['\x1b', '['] ('\x1b' :: '[' :: digits ++ 'm' :: rest) =
        some (digits ++ 'm' :: rest) := after?_eq_some_iff.mpr rfl
    have hmark : after? ['m'] ('m' :: rest) = some rest := after?_eq_some_iff.mpr rfl
    rw [afterSequence?, hsequence, Option.bind_some]
    simp only [htake, List.drop_left, hmark, if_neg (by simpa using hne : ¬ digits.isEmpty = true)]

/-- The text without the escape sequences in it. -/
def eraseSequences (text : List Char) : List Char :=
  match text with
  | []        => []
  | c :: rest =>
    match _h : afterSequence? (c :: rest) with
    | some more => eraseSequences more
    | none      => c :: eraseSequences rest
termination_by text.length
decreasing_by
  · obtain ⟨digits, -, -, htext⟩ := afterSequence?_eq_some_iff.mp _h
    rw [htext]
    simp
    omega
  · exact Nat.lt_succ_self _

theorem eraseSequences_of_eq_some {text rest : List Char} (h : afterSequence? text = some rest) :
    eraseSequences text = eraseSequences rest := by
  cases text with
  | nil => cases h
  | cons c text =>
    rw [eraseSequences]
    split
    · next more hmore => rw [Option.some.inj (hmore.symm.trans h)]
    · next hnone =>
      rw [h] at hnone
      cases hnone

theorem eraseSequences_of_eq_none {c : Char} {rest : List Char}
    (h : afterSequence? (c :: rest) = none) :
    eraseSequences (c :: rest) = c :: eraseSequences rest := by
  rw [eraseSequences]
  split
  · next more hmore =>
    rw [h] at hmore
    cases hmore
  · rfl

/-- Text without an escape character stays as it is. -/
theorem eraseSequences_append {text : List Char} (h : '\x1b' ∉ text) (rest : List Char) :
    eraseSequences (text ++ rest) = text ++ eraseSequences rest := by
  induction text with
  | nil => rfl
  | cons c text ih =>
    obtain ⟨hc, htext⟩ := not_or.mp (mt List.mem_cons.mpr h)
    have hnone : afterSequence? (c :: (text ++ rest)) = none := by
      rw [Option.eq_none_iff_forall_ne_some]
      intro more hmore
      obtain ⟨digits, -, -, hdigits⟩ := afterSequence?_eq_some_iff.mp hmore
      exact hc (List.cons.inj hdigits).1.symm
    rw [List.cons_append, eraseSequences_of_eq_none hnone, ih htext, List.cons_append]

end Text

open Text (eraseSequences)

namespace Style

/-- The escape sequence of a code is erased. -/
theorem eraseSequences_sequence (code : Nat) (rest : List Char) :
    eraseSequences ((sequence code).toList ++ rest) = eraseSequences rest := by
  refine Text.eraseSequences_of_eq_some (Text.afterSequence?_eq_some_iff.mpr ?_)
  refine ⟨(toString code).toList, ?_, ?_, by simp [sequence]⟩
  · simp [Nat.toDigits_ne_nil]
  · intro d hd
    rw [Nat.toString_eq_ofList_toDigits, String.toList_ofList] at hd
    exact Nat.isDigit_of_mem_toDigits (by decide) (by decide) hd

theorem eraseSequences_enter (style : Style) (rest : List Char) :
    eraseSequences (style.enter.toList ++ rest) = eraseSequences rest := by
  rw [enter]
  induction style.codes with
  | nil => rfl
  | cons code codes ih =>
    simp only [List.map_cons, String.join_cons, String.toList_append, List.append_assoc]
    rw [eraseSequences_sequence, ih]

theorem eraseSequences_leave (style : Style) (rest : List Char) :
    eraseSequences (style.leave.toList ++ rest) = eraseSequences rest := by
  rw [leave]
  split
  · rfl
  · exact eraseSequences_sequence 0 rest

end Style

namespace Painter

/-- What an instruction writes is left of what a painter writes for it. -/
theorem eraseSequences_step (painter : Painter) {i : Instruction} (h : '\x1b' ∉ i.written.toList)
    (rest : List Char) :
    eraseSequences ((painter.step i).2.toList ++ rest) =
      i.written.toList ++ eraseSequences rest := by
  cases i with
  | write t => exact Text.eraseSequences_append h rest
  | set style =>
    rw [step]
    split
    · exact Style.eraseSequences_enter style rest
    · rfl
  | unset =>
    rw [step]
    split
    · next style outer _ =>
      split
      · rw [String.toList_append, List.append_assoc, Style.eraseSequences_leave]
        cases outer with
        | nil => rfl
        | cons inner _ => exact Style.eraseSequences_enter inner rest
      · rfl
    · rfl

theorem eraseSequences_run (painter : Painter) {p : Painting} (h : '\x1b' ∉ p.plain.toList)
    (rest : List Char) :
    eraseSequences ((String.join (painter.run p).2).toList ++ rest) =
      p.plain.toList ++ eraseSequences rest := by
  induction p generalizing painter with
  | nil => rfl
  | cons i is ih =>
    rw [Painting.plain_cons, String.toList_append] at h ⊢
    obtain ⟨hi, his⟩ := not_or.mp (mt List.mem_append.mpr h)
    rw [run, String.join_cons, String.toList_append, List.append_assoc,
      eraseSequences_step painter hi, ih _ his, List.append_assoc]

/-- The text of a painting without an escape character is left of what any painter writes. -/
theorem eraseSequences_paint (painter : Painter) {p : Painting} (h : '\x1b' ∉ p.plain.toList) :
    eraseSequences (painter.paint p).toList = p.plain.toList := by
  have hrun := painter.eraseSequences_run h []
  rwa [List.append_nil, eraseSequences, List.append_nil] at hrun

end Painter

end Frontend
