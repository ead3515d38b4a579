import Frontend.Proofs.Paint.Plain

/-!
# What a terminal makes of paintings

A terminal has a style in effect, which escape sequences change: the code zero takes it back, and
every other one sets a colour or an effect and leaves the rest as it is. A style that is set comes
on top of what is in effect, but when it is unset, no more than the style right below it is put into
effect again. What was in effect before is thus restored just if it was that one style alone, or if
nothing but plain styles have been set in between (`Painting.inEffect_styled_iff`).
-/

namespace Frontend

/-! ### Styles in effect -/

namespace Style

/-- A style on top of another one, which stays in effect where the style on top sets nothing. -/
def onTop (top below : Style) : Style where
  foreground := top.foreground.or below.foreground
  background := top.background.or below.background
  effects :=
    { bold      := top.effects.bold || below.effects.bold
      dimmed    := top.effects.dimmed || below.effects.dimmed
      italic    := top.effects.italic || below.effects.italic
      underline := top.effects.underline || below.effects.underline }

@[simp] theorem onTop_plain (s : Style) : s.onTop plain = s := by
  simp [onTop, plain, Effects.none]

@[simp] theorem plain_onTop (s : Style) : plain.onTop s = s := by
  simp [onTop, plain, Effects.none]

@[simp] theorem onTop_onTop (s t : Style) : s.onTop (s.onTop t) = s.onTop t := by
  simp [onTop, ← Option.or_assoc]

@[simp] theorem onTop_self (s : Style) : s.onTop s = s := by
  simp [onTop]

/-- The style in effect behind the escape sequence of a code. -/
def obey (inEffect : Style) : (code : Nat) → Style
  | 0    => plain
  | 1    => { inEffect with effects := { inEffect.effects with bold := true } }
  | 2    => { inEffect with effects := { inEffect.effects with dimmed := true } }
  | 3    => { inEffect with effects := { inEffect.effects with italic := true } }
  | 4    => { inEffect with effects := { inEffect.effects with underline := true } }
  | code =>
    match Color.all.find? (·.foregroundCode == code),
      Color.all.find? (·.backgroundCode == code) with
    | some c, _    => { inEffect with foreground := some c }
    | none, some c => { inEffect with background := some c }
    | none, none   => inEffect

theorem obey_foregroundCode (inEffect : Style) (c : Color) :
    inEffect.obey c.foregroundCode = { inEffect with foreground := some c } := by
  obtain ⟨hue, bright⟩ := c
  cases hue <;> cases bright <;> rfl

theorem obey_backgroundCode (inEffect : Style) (c : Color) :
    inEffect.obey c.backgroundCode = { inEffect with background := some c } := by
  obtain ⟨hue, bright⟩ := c
  cases hue <;> cases bright <;> rfl

theorem foldl_obey_effects (inEffect : Style) (e : Effects) :
    e.codes.foldl obey inEffect = (ofEffects e).onTop inEffect := by
  obtain ⟨bold, dimmed, italic, underline⟩ := e
  cases bold <;> cases dimmed <;> cases italic <;> cases underline <;>
    simp [Effects.codes, obey, onTop, ofEffects, plain]

/-- The codes of a style put it on top of what is in effect. -/
theorem foldl_obey_codes (inEffect s : Style) : s.codes.foldl obey inEffect = s.onTop inEffect := by
  obtain ⟨foreground, background, effects⟩ := s
  simp only [codes, List.foldl_append, foldl_obey_effects]
  cases foreground <;> cases background <;>
    simp [obey_foregroundCode, obey_backgroundCode, onTop, ofEffects, plain]

end Style

/-! ### Terminals -/

namespace Text

/-- The code of the escape sequence that the text begins with. -/
def sequenceCode (text : List Char) : Nat :=
  Nat.ofDigitChars 10 ((text.drop 2).takeWhile Char.isDigit) 0

/-- The style in effect behind a text that is written to a terminal. -/
def styleBehind (inEffect : Style) (text : List Char) : Style :=
  match text with
  | []        => inEffect
  | c :: rest =>
    match _h : afterSequence? (c :: rest) with
    | some more => styleBehind (inEffect.obey (sequenceCode (c :: rest))) more
    | none      => styleBehind inEffect rest
termination_by text.length
decreasing_by
  · obtain ⟨digits, -, -, htext⟩ := afterSequence?_eq_some_iff.mp _h
    rw [htext]
    simp
    omega
  · exact Nat.lt_succ_self _

theorem styleBehind_of_eq_some {text rest : List Char} (h : afterSequence? text = some rest)
    (inEffect : Style) :
    styleBehind inEffect text = styleBehind (inEffect.obey (sequenceCode text)) rest := by
  cases text with
  | nil => cases h
  | cons c text =>
    rw [styleBehind]
    split
    · next more hmore => rw [Option.some.inj (hmore.symm.trans h)]
    · next hnone =>
      rw [h] at hnone
      cases hnone

/-- Text without an escape character changes nothing. -/
theorem styleBehind_append {text : List Char} (h : '\x1b' ∉ text) (inEffect : Style)
    (rest : List Char) : styleBehind inEffect (text ++ rest) = styleBehind inEffect rest := by
  induction text with
  | nil => rfl
  | cons c text ih =>
    obtain ⟨hc, htext⟩ := not_or.mp (mt List.mem_cons.mpr h)
    rw [List.cons_append, styleBehind]
    split
    · next more hmore =>
      obtain ⟨digits, -, -, hdigits⟩ := afterSequence?_eq_some_iff.mp hmore
      exact absurd (List.cons.inj hdigits).1.symm hc
    · exact ih htext

theorem styleBehind_sequence (inEffect : Style) (code : Nat) (rest : List Char) :
    styleBehind inEffect ((Style.sequence code).toList ++ rest) =
      styleBehind (inEffect.obey code) rest := by
  have htext : (Style.sequence code).toList ++ rest =
      '\x1b' :: '[' :: Nat.toDigits 10 code ++ 'm' :: rest := by
    simp [Style.sequence]
  have hdigits : ∀ d ∈ Nat.toDigits 10 code, d.isDigit := fun d hd =>
    Nat.isDigit_of_mem_toDigits (by decide) (by decide) hd
  have hafter : afterSequence? ((Style.sequence code).toList ++ rest) = some rest :=
    afterSequence?_eq_some_iff.mpr ⟨_, Nat.toDigits_ne_nil, hdigits, htext⟩
  have hcode : sequenceCode ((Style.sequence code).toList ++ rest) = code := by
    rw [htext, sequenceCode, List.cons_append, List.cons_append, List.drop_succ_cons,
      List.drop_succ_cons, List.drop_zero, List.takeWhile_append_of_pos hdigits,
      List.takeWhile_cons_of_neg (by decide), List.append_nil, Nat.ofDigitChars_ten_toDigits]
  rw [styleBehind_of_eq_some hafter, hcode]

theorem styleBehind_enter (inEffect s : Style) (rest : List Char) :
    styleBehind inEffect (s.enter.toList ++ rest) = styleBehind (s.onTop inEffect) rest := by
  rw [← Style.foldl_obey_codes, Style.enter]
  induction s.codes generalizing inEffect with
  | nil => rfl
  | cons code codes ih =>
    simp only [List.map_cons, String.join_cons, String.toList_append, List.append_assoc]
    rw [styleBehind_sequence, ih, List.foldl_cons]

theorem styleBehind_leave (inEffect s : Style) (rest : List Char) :
    styleBehind inEffect (s.leave.toList ++ rest) =
      styleBehind (if s = .plain then inEffect else .plain) rest := by
  rw [Style.leave]
  split
  · rfl
  · exact styleBehind_sequence inEffect 0 rest

end Text

/-! ### Painters at a terminal -/

namespace Painter

/-- The innermost of the styles that are set. -/
def innermost (painter : Painter) : Style := painter.styles.headD .plain

/-- The style in effect behind what a painter that colorizes writes for an instruction. -/
def effect (painter : Painter) (inEffect : Style) : Instruction → Style
  | .write _ => inEffect
  | .set s   => s.onTop inEffect
  | .unset   =>
    match painter.styles with
    | []         => inEffect
    | s :: outer => (outer.headD .plain).onTop (if s = .plain then inEffect else .plain)

/-- The style in effect behind what a painter that colorizes makes of a painting. -/
def follow (painter : Painter) (inEffect : Style) : Painting → Style
  | []      => inEffect
  | i :: is => (painter.step i).1.follow (painter.effect inEffect i) is

variable {painter : Painter} {inEffect : Style}

theorem follow_append (painter : Painter) (inEffect : Style) (p q : Painting) :
    painter.follow inEffect (p ++ q) =
      (painter.run p).1.follow (painter.follow inEffect p) q := by
  induction p generalizing painter inEffect with
  | nil => rfl
  | cons i is ih => rw [List.cons_append, follow, ih, run, follow]

@[simp] theorem colorize_step (painter : Painter) (i : Instruction) :
    (painter.step i).1.colorize = painter.colorize := by
  cases i with
  | write t => rfl
  | set s =>
    simp only [step]
    split <;> rfl
  | unset =>
    simp only [step]
    repeat' split
    all_goals rfl

@[simp] theorem colorize_run (painter : Painter) (p : Painting) :
    (painter.run p).1.colorize = painter.colorize := by
  induction p generalizing painter with
  | nil => rfl
  | cons i is ih => simp [run, ih]

theorem step_set (h : painter.colorize) (s : Style) :
    painter.step (.set s) = ({ painter with styles := s :: painter.styles }, s.enter) := by
  simp [step, h]

theorem step_unset (h : painter.colorize) {s : Style} {outer : List Style}
    (hstyles : painter.styles = s :: outer) : painter.step .unset =
      ({ painter with styles := outer },
        s.leave ++ (outer.head?.map Style.enter).getD "") := by
  simp [step, h, hstyles]

theorem step_unset_of_nil (hstyles : painter.styles = []) :
    painter.step .unset = (painter, "") := by
  simp [step, hstyles]

theorem styleBehind_step (h : painter.colorize) {i : Instruction} (hi : '\x1b' ∉ i.written.toList)
    (rest : List Char) :
    Text.styleBehind inEffect ((painter.step i).2.toList ++ rest) =
      Text.styleBehind (painter.effect inEffect i) rest := by
  cases i with
  | write t => exact Text.styleBehind_append hi inEffect rest
  | set s =>
    rw [step_set h]
    exact Text.styleBehind_enter inEffect s rest
  | unset =>
    cases hstyles : painter.styles with
    | nil =>
      rw [step_unset_of_nil hstyles, effect, hstyles]
      rfl
    | cons s outer =>
      rw [step_unset h hstyles, effect, hstyles, String.toList_append, List.append_assoc,
        Text.styleBehind_leave]
      cases outer with
      | nil => simp
      | cons below _ => exact Text.styleBehind_enter _ below rest

/-- What a terminal has in effect behind the text of a painting is what the painter puts into
effect, if no escape character is written. -/
theorem styleBehind_run (h : painter.colorize) {p : Painting} (hp : '\x1b' ∉ p.plain.toList)
    (rest : List Char) :
    Text.styleBehind inEffect ((String.join (painter.run p).2).toList ++ rest) =
      Text.styleBehind (painter.follow inEffect p) rest := by
  induction p generalizing painter inEffect with
  | nil => rfl
  | cons i is ih =>
    rw [Painting.plain_cons, String.toList_append] at hp
    obtain ⟨hi, his⟩ := not_or.mp (mt List.mem_append.mpr hp)
    rw [run, String.join_cons, String.toList_append, List.append_assoc, styleBehind_step h hi,
      ih (by simpa) his, follow]

/-- What the innermost style sets is in effect, whatever happens. -/
theorem innermost_onTop_effect (h : painter.colorize)
    (hon : painter.innermost.onTop inEffect = inEffect) (i : Instruction) :
    (painter.step i).1.innermost.onTop (painter.effect inEffect i) = painter.effect inEffect i := by
  cases i with
  | write t => exact hon
  | set s =>
    rw [step_set h]
    exact Style.onTop_onTop s inEffect
  | unset =>
    cases hstyles : painter.styles with
    | nil =>
      rw [step_unset_of_nil hstyles, effect, hstyles]
      exact hon
    | cons s outer =>
      rw [step_unset h hstyles, effect, hstyles]
      exact Style.onTop_onTop _ _

theorem innermost_onTop_follow (h : painter.colorize)
    (hon : painter.innermost.onTop inEffect = inEffect) (p : Painting) :
    (painter.run p).1.innermost.onTop (painter.follow inEffect p) =
      painter.follow inEffect p := by
  induction p generalizing painter inEffect with
  | nil => exact hon
  | cons i is ih =>
    have hstep := innermost_onTop_effect h hon i
    rw [run, follow]
    exact ih (by rwa [colorize_step]) hstep

end Painter

/-! ### Nested styles at a terminal -/

namespace Painting

/-- No style is set but the plain one. -/
def setsNothing (p : Painting) : Bool :=
  p.all fun
    | .set s => s = .plain
    | _      => true

theorem setsNothing_append (p q : Painting) :
    (p ++ q).setsNothing = (p.setsNothing && q.setsNothing) := List.all_append

theorem setsNothing_styled (s : Style) (body : Painting) :
    (styled s body).setsNothing = (decide (s = .plain) && body.setsNothing) := by
  simp [setsNothing, styled]

/-- Behind a painting with nested styles the innermost style is in effect and nothing else, unless
the painting sets nothing, in which case it changes nothing. -/
theorem WellNested.follow_eq {body : Painting} (hbody : body.WellNested) {painter : Painter}
    {inEffect : Style} (h : painter.colorize)
    (hon : painter.innermost.onTop inEffect = inEffect) :
    painter.follow inEffect body = if body.setsNothing then inEffect else painter.innermost := by
  induction hbody generalizing painter inEffect with
  | nil => rfl
  | text t => rfl
  | @append p q hp hq ihp ihq =>
    rw [Painter.follow_append, hp.run_fst, ihp h hon, setsNothing_append]
    by_cases hpset : p.setsNothing
    · rw [if_pos hpset, ihq h hon, hpset, Bool.true_and]
    · rw [if_neg hpset, ihq h (Style.onTop_self _), ite_self]
      simp [hpset]
  | @styled s body hbody ih =>
    -- the painter and the terminal behind the style that is set, and behind its body
    let inside : Painter := { painter with styles := s :: painter.styles }
    have hinside : inside.follow (s.onTop inEffect) body =
        if body.setsNothing then s.onTop inEffect else s := ih h (Style.onTop_onTop s inEffect)
    have hstyled : painter.follow inEffect (Painting.styled s body) =
        painter.innermost.onTop
          (if s = .plain then inside.follow (s.onTop inEffect) body else .plain) := by
      rw [Painting.styled, List.cons_append, Painter.follow, Painter.step_set h,
        Painter.follow_append, hbody.run_fst]
      rfl
    rw [hstyled, hinside, setsNothing_styled]
    by_cases hs : s = .plain
    · by_cases hset : body.setsNothing
      · simp [hs, hset, hon]
      · simp [hs, hset]
    · simp [hs]

/-- The style that a terminal has in effect behind a painting in colours. -/
def inEffect (p : Painting) : Style := Text.styleBehind .plain (p.toText .always).toList

/-- The innermost of the styles that are set behind a painting in colours. -/
def innermost (p : Painting) : Style := ((Painter.ofChoice .always).run p).1.innermost

theorem inEffect_eq_follow {p : Painting} (hp : '\x1b' ∉ p.plain.toList) :
    p.inEffect = (Painter.ofChoice .always).follow .plain p := by
  have hcolorize : (Painter.ofChoice .always).colorize := rfl
  have hrun : Text.styleBehind .plain ((p.toText .always).toList ++ []) =
      Text.styleBehind ((Painter.ofChoice .always).follow .plain p) [] :=
    Painter.styleBehind_run hcolorize hp []
  rwa [List.append_nil, Text.styleBehind] at hrun

theorem not_mem_plain_append {c : Char} {p q : Painting} :
    c ∉ (p ++ q).plain.toList ↔ c ∉ p.plain.toList ∧ c ∉ q.plain.toList := by
  simp [not_or]

theorem plain_styled (s : Style) (body : Painting) : (styled s body).plain = body.plain := by
  simp [plain, styled, Instruction.written]

theorem innermost_onTop_inEffect {p : Painting} (hp : '\x1b' ∉ p.plain.toList) :
    p.innermost.onTop p.inEffect = p.inEffect := by
  rw [inEffect_eq_follow hp]
  exact Painter.innermost_onTop_follow rfl (Style.onTop_plain _) p

/-- Behind a style that is set, what is painted in it, and the unsetting of the style, the style
below it is in effect and nothing else, unless nothing was set. -/
theorem inEffect_append_styled {history body : Painting} (s : Style) (hbody : body.WellNested)
    (hwrite : '\x1b' ∉ (history ++ body).plain.toList) :
    (history ++ styled s body).inEffect =
      if (styled s body).setsNothing then history.inEffect else history.innermost := by
  obtain ⟨hhistory, hwrite⟩ := not_mem_plain_append.mp hwrite
  have hall : '\x1b' ∉ (history ++ styled s body).plain.toList :=
    not_mem_plain_append.mpr ⟨hhistory, by rwa [plain_styled]⟩
  rw [inEffect_eq_follow hall, inEffect_eq_follow hhistory, Painter.follow_append]
  exact (WellNested.styled s hbody).follow_eq (Painter.colorize_run _ history)
    (Painter.innermost_onTop_follow rfl (Style.onTop_plain _) history)

/-- When a style is unset, what was in effect before it was set is restored just if that was the
style below it and nothing else, or if neither the style nor any style within it sets anything. What
the style below sets is in effect again in any case. -/
theorem inEffect_styled_iff {history body : Painting} (s : Style) (hbody : body.WellNested)
    (hwrite : '\x1b' ∉ (history ++ body).plain.toList) :
    ((history ++ styled s body).inEffect = history.inEffect ↔
        history.inEffect = history.innermost ∨ (styled s body).setsNothing) ∧
      history.innermost.onTop (history ++ styled s body).inEffect =
        (history ++ styled s body).inEffect := by
  have hhistory := (not_mem_plain_append.mp hwrite).1
  rw [inEffect_append_styled s hbody hwrite]
  by_cases hset : (styled s body).setsNothing
  · simp [hset, innermost_onTop_inEffect hhistory]
  · simp [hset, eq_comm]

/-- Bold text within red text: the red is restored. -/
theorem inEffect_bold_in_red :
    let red : Painting := [.set (.dark .red), .write "a"]
    (text "b").WellNested ∧ '\x1b' ∉ (red ++ text "b").plain.toList ∧
      red.inEffect = red.innermost ∧ red.inEffect = .dark .red ∧
        (red ++ styled (.ofEffects .boldOnly) (text "b")).inEffect = red.inEffect := by
  intro red
  have hbody : (text "b").WellNested := .text "b"
  have hwrite : '\x1b' ∉ (red ++ text "b").plain.toList := by decide +kernel
  have hinnermost : red.inEffect = red.innermost := by decide +kernel
  exact ⟨hbody, hwrite, hinnermost, by decide +kernel,
    (inEffect_styled_iff _ hbody hwrite).1.mpr (.inl hinnermost)⟩

/-- Green text within text that is bold and red: the red is restored, and the text is no longer
bold. -/
theorem exists_inEffect_ne : ∃ (history body : Painting) (s : Style), body.WellNested ∧
    '\x1b' ∉ (history ++ body).plain.toList ∧
      (history ++ styled s body).inEffect ≠ history.inEffect :=
  ⟨[.set (.ofEffects .boldOnly), .set (.dark .red)], text "a", .dark .green, .text "a",
    by decide +kernel, by decide +kernel⟩

end Painting

end Frontend
