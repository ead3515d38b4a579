import Frontend.Proofs.Grammar.Calls
import Frontend.Proofs.Grammar.ModuleFinishing

/-!
# Readers halt

A reader halts where all calls that it makes halt. As no chain of calls goes on for ever where an
end of input is ahead, every reader halts there. The depth of its calls says how many of them are
enough, and the number that a loop starts with is always enough.
-/

namespace Frontend

theorem ParseFailure.IsFault.ne_endless {e : ParseFailure} (h : e.IsFault) : e ≠ .endless := by
  rintro rfl
  exact h

namespace Parser

variable {α β : Type} {p : Parser α} {f : α → Parser β} {fixities : FixityTable} {r : Reader}
  {n : Nat} {s : TokenStream}

/-! ### Parsers that halt -/

/-- The parser ends with a value or with a failure. -/
def Halts (p : Parser α) (s : TokenStream) : Prop :=
  p.Ensures (fun _ _ => True) (fun e _ => e ≠ .endless) s

theorem Finishes.halts (h : p.Finishes s) : p.Halts s :=
  h.mono (fun _ _ => id) fun _ _ he => he.ne_endless

theorem Halts.ensures {Q : α → TokenStream → Prop} (h : p.Halts s)
    (hQ : ∀ a t, p s = .ok a t → Q a t) : p.Ensures Q (fun e _ => e ≠ .endless) s := by
  unfold Halts Ensures at *
  split
  · next hp => exact hQ _ _ hp
  · next hp => simpa only [hp] using h

theorem Halts.pure (a : α) : (Pure.pure a : Parser α).Halts s := trivial

theorem Halts.bind (h : p.Halts s) (hf : ∀ a t, p s = .ok a t → (f a).Halts t) :
    (p >>= f).Halts s :=
  (ensures_bind f).mpr (h.ensures hf)

theorem Halts.bind_pure {f : α → β} (h : p.Halts s) : (p >>= fun a => Pure.pure (f a)).Halts s :=
  h.bind fun _ _ _ => .pure _

theorem Halts.repeated {p : Nat → Parser α} (h : ∀ m, s.fuel ≤ m → (p m).Halts s) :
    (repeated p).Halts s :=
  (ensures_repeated p).mpr (h s.fuel (Nat.le_refl _))

theorem halts_fail {fault : SyntaxFault} : (fail fault : Parser α).Halts s := by
  simp [Halts]

theorem halts_current {f : Token → Parser β} (h : (f s.current).Halts s) :
    (current >>= f).Halts s :=
  (ensures_bind f).mpr h

theorem halts_peek {k : Nat} {f : Token → Parser β} (h : (f (s.peek k)).Halts s) :
    (peek k >>= f).Halts s :=
  (ensures_bind f).mpr h

theorem halts_advance {f : Unit → Parser β} (h : (f ()).Halts s.advance) :
    (advance >>= f).Halts s :=
  (ensures_bind f).mpr h

theorem halts_skipContinuation {f : Unit → Parser β} {q : TokenKind → Bool}
    (h : (f ()).Halts (s.skipContinuation q)) : (skipContinuation q >>= f).Halts s :=
  (ensures_bind f).mpr h

theorem halts_ite {c : Prop} [Decidable c] {q : Parser α} (hthen : c → p.Halts s)
    (helse : ¬ c → q.Halts s) : (if c then p else q).Halts s :=
  (ensures_ite c q).mpr ⟨hthen, helse⟩

theorem halts_merge {f : Span → Parser β} {u v : Span} (h : ∀ w, (f w).Halts s) :
    (merge u v >>= f).Halts s := by
  rw [Halts, ensures_bind, ensures_merge]
  exact ⟨fun _ => h _, by simp⟩

theorem halts_consume {f : Bool → Parser β} {symbol : Symbol}
    (htrue : s.current.kind = .symbol symbol → (f true).Halts s.advance)
    (hfalse : s.current.kind ≠ .symbol symbol → (f false).Halts s) :
    (consume symbol >>= f).Halts s := by
  rw [Halts, ensures_bind, ensures_consume]
  exact ⟨htrue, hfalse⟩

theorem halts_take {f : Token → Parser β} {q : TokenKind → Bool} {fault : SyntaxFault}
    (h : q s.current.kind → (f s.current).Halts s.advance) : (take q fault >>= f).Halts s := by
  rw [Halts, ensures_bind, ensures_take]
  exact ⟨h, by simp⟩

theorem halts_expect {f : α → Parser β} {fault : SyntaxFault} {a? : Option α}
    (h : ∀ a, a? = some a → (f a).Halts s) : (expect fault a? >>= f).Halts s := by
  rw [Halts, ensures_bind, ensures_expect]
  exact ⟨h, by simp⟩

theorem halts_require {f : Unit → Parser β} {c : Bool} {fault : SyntaxFault}
    (h : (f ()).Halts s) : (require c fault >>= f).Halts s := by
  rw [Halts, ensures_bind, ensures_require]
  exact ⟨fun _ => h, by simp⟩

/-! ### Readers that halt -/

/-- The reader halts at a place with some number of calls, whatever it is given. -/
def Reader.HaltsWithin (fixities : FixityTable) (r : Reader) (n : Nat) (s : TokenStream) : Prop :=
  match r with
  | .wholeExpression => (Parser.wholeExpression fixities).Halts s
  | .expression      => (expressionWithin fixities n).Halts s
  | .elements        => (elementsWithin fixities n).Halts s
  | .binary band     => (binaryWithin fixities n band).Halts s
  | .operations band => ∀ before? left, (operationsWithin fixities n band before? left).Halts s
  | .application     => (applicationWithin fixities n).Halts s
  | .arguments       => ∀ callee, (argumentsWithin fixities n callee).Halts s
  | .factor          => (factorWithin fixities n).Halts s
  | .members         => ∀ value, (membersWithin fixities n value).Halts s
  | .primary         => (primaryWithin fixities n).Halts s
  | .round           => ∀ opening, (roundWithin fixities n opening).Halts s
  | .curly           => ∀ opening, (curlyWithin fixities n opening).Halts s
  | .text            => ∀ first, (textWithin fixities n first).Halts s
  | .segments        => (segmentsWithin fixities n).Halts s
  | .module          => (Parser.module fixities).Halts s
  | .header          => Parser.header.Halts s
  | .imports         => (importsWithin n).Halts s
  | .importLine      => importRest.Halts s
  | .bindings        => ∀ fault, (bindings? fault).Halts s
  | .names           => ∀ fault, (bindingsWithin fault n).Halts s
  | .items           => (itemsWithin fixities n).Halts s
  | .item            => (Parser.item fixities).Halts s
  | .line            => ∀ span, (lineWithin n span).Halts s
  | .separators      => (separatorsWithin n).Halts s
  | .blankLines      => (blankLinesWithin n).Halts s
  | .lineBreaks      => (lineBreaksWithin n).Halts s

/-- All calls that the reader makes at a place halt, with the given number of calls, and with as
many as a loop starts with. -/
def CalleesHalt (fixities : FixityTable) (n : Nat) (r : Reader) (s : TokenStream) : Prop :=
  ∀ r' t, Calls fixities (r, s) (r', t) → ∀ m, m = n ∨ t.fuel ≤ m → r'.HaltsWithin fixities m t

theorem CalleesHalt.within {r' : Reader} {t : TokenStream} (h : CalleesHalt fixities n r s)
    (hc : Calls fixities (r, s) (r', t)) : r'.HaltsWithin fixities n t :=
  h r' t hc n (.inl rfl)

theorem CalleesHalt.started {r' : Reader} {t : TokenStream} (h : CalleesHalt fixities n r s)
    (hc : Calls fixities (r, s) (r', t)) {m : Nat} (hm : t.fuel ≤ m) :
    r'.HaltsWithin fixities m t :=
  h r' t hc m (.inr hm)

namespace CalleesHalt

theorem expression (h : CalleesHalt fixities n .expression s) :
    (expressionWithin fixities (n + 1)).Halts s := by
  rw [expressionWithin]
  refine .bind (h.within .expressionBinary) fun first? t ht => ?_
  cases first? with
  | none => exact .pure none
  | some first =>
    refine halts_skipContinuation (halts_current (halts_ite (fun hk => ?_) fun _ => .pure _))
    refine .bind (h.within (.expressionElements ⟨_, _, ht⟩ hk)) fun rest u _ => ?_
    exact halts_merge fun span => .pure _

theorem elements (h : CalleesHalt fixities n .elements s) :
    (elementsWithin fixities (n + 1)).Halts s := by
  rw [elementsWithin]
  refine halts_consume (fun hk => ?_) fun _ => .pure []
  refine .bind (h.within (.elementsBinary hk)) fun element? t ht => halts_expect ?_
  rintro element rfl
  exact halts_skipContinuation (.bind_pure (h.within (.elementsNext hk ⟨_, _, ht⟩)))

theorem binary {band : Nat} (h : CalleesHalt fixities n (.binary band) s) :
    (binaryWithin fixities (n + 1) band).Halts s := by
  rw [binaryWithin]
  refine halts_ite (fun hband => h.within (.binaryApplication hband)) fun hband => ?_
  have hband := Nat.not_lt.mp hband
  refine .bind (h.within (.binaryTighter hband)) fun left? t ht => ?_
  cases left? with
  | none => exact .pure none
  | some left => exact .bind_pure (h.within (.binaryOperations hband ⟨_, _, ht⟩) none left)

theorem operations {band : Nat} (before? : Option Associativity) (left : Expression)
    (h : CalleesHalt fixities n (.operations band) s) :
    (operationsWithin fixities (n + 1) band before? left).Halts s := by
  rw [operationsWithin]
  refine halts_skipContinuation (halts_current ?_)
  split
  · next name hk =>
    refine halts_ite (fun hband => halts_require (halts_advance ?_)) fun _ => .pure left
    refine .bind (h.within (.operationsRight rfl hk hband)) fun right? t ht => halts_expect ?_
    rintro right rfl
    exact halts_merge fun span => h.within (.operationsNext rfl hk hband ⟨_, _, ht⟩) _ _
  · exact .pure left

theorem application (h : CalleesHalt fixities n .application s) :
    (applicationWithin fixities (n + 1)).Halts s := by
  rw [applicationWithin]
  refine .bind (h.within .applicationFactor) fun callee? t ht => ?_
  cases callee? with
  | none => exact .pure none
  | some callee => exact .bind_pure (h.within (.applicationArguments ⟨_, _, ht⟩) callee)

theorem arguments (callee : Expression) (h : CalleesHalt fixities n .arguments s) :
    (argumentsWithin fixities (n + 1) callee).Halts s := by
  rw [argumentsWithin]
  refine halts_ite (fun _ => ?_) fun _ => .pure callee
  refine .bind (h.within .argumentsFactor) fun argument? t ht => ?_
  cases argument? with
  | none => exact .pure callee
  | some argument => exact halts_merge fun span => h.within (.argumentsNext ⟨_, _, ht⟩) _

theorem factor (h : CalleesHalt fixities n .factor s) :
    (factorWithin fixities (n + 1)).Halts s := by
  rw [factorWithin]
  refine halts_skipContinuation (.bind (h.within .factorPrimary) fun primary? t ht => ?_)
  cases primary? with
  | none => exact .pure none
  | some primary => exact .bind_pure (h.within (.factorMembers ⟨_, _, ht⟩) primary)

theorem members (value : Expression) (h : CalleesHalt fixities n .members s) :
    (membersWithin fixities (n + 1) value).Halts s := by
  rw [membersWithin]
  refine halts_current (halts_consume (fun hk => halts_take fun hname => ?_) fun _ => .pure value)
  exact halts_merge fun span => h.within (.membersNext hk hname) _

theorem primary (h : CalleesHalt fixities n .primary s) :
    (primaryWithin fixities (n + 1)).Halts s := by
  rw [primaryWithin]
  refine halts_current ?_
  split
  iterate 3 exact halts_advance (.pure _)
  · next hk => exact halts_advance (.bind_pure (h.within (.primaryText hk) _))
  · next hk => exact halts_advance (.bind_pure (h.within (.primaryRound hk) _))
  · next hk => exact halts_advance (.bind_pure (h.within (.primaryCurly hk) _))
  · exact .pure none

theorem round (opening : Span) (h : CalleesHalt fixities n .round s) :
    (roundWithin fixities (n + 1) opening).Halts s := by
  rw [roundWithin]
  refine halts_current (halts_consume (fun _ => halts_merge fun span => .pure _) fun hk => ?_)
  refine .bind (h.within (.roundExpression hk)) fun inner? t _ => halts_expect fun inner _ => ?_
  exact halts_take fun _ => halts_merge fun span => .pure _

theorem curly (opening : Span) (h : CalleesHalt fixities n .curly s) :
    (curlyWithin fixities (n + 1) opening).Halts s := by
  rw [curlyWithin]
  refine .bind (h.within .curlyBinary) fun first? t ht => ?_
  cases first? with
  | none => exact halts_take fun _ => halts_merge fun span => .pure _
  | some first =>
    refine .bind (h.within (.curlyElements ⟨_, _, ht⟩)) fun rest u _ => ?_
    exact halts_take fun _ => halts_merge fun span => .pure _

theorem text (first : Expression) (h : CalleesHalt fixities n .text s) :
    (textWithin fixities (n + 1) first).Halts s := by
  rw [textWithin]
  refine halts_current (halts_ite (fun hk => ?_) fun _ => .pure first)
  exact .bind (h.within (.textSegments hk)) fun rest t _ => halts_merge fun span => .pure _

theorem segments (h : CalleesHalt fixities n .segments s) :
    (segmentsWithin fixities (n + 1)).Halts s := by
  rw [segmentsWithin]
  refine halts_consume (fun hk => ?_) fun _ => .pure []
  refine .bind (h.within (.segmentsExpression hk)) fun value? t ht => halts_expect ?_
  rintro value rfl
  refine halts_take fun hclose => halts_take fun htext => ?_
  exact .bind_pure (h.within (.segmentsNext hk ⟨_, _, ht⟩ hclose htext))

/-! ### Readers of modules -/

theorem module (h : CalleesHalt fixities n .module s) : (Parser.module fixities).Halts s := by
  rw [Parser.module]
  have hblanks : (repeated blankLinesWithin).Halts s :=
    .repeated fun _ => h.started .moduleBlankLines
  refine .bind hblanks fun _ t ht => halts_current (halts_require ?_)
  refine .bind (h.within (.moduleHeader ⟨_, ht⟩)) fun name u hu => ?_
  have himports : (repeated importsWithin).Halts u :=
    .repeated fun _ => h.started (.moduleImports ⟨_, ht⟩ ⟨_, hu⟩)
  refine .bind himports fun imports v hv => ?_
  have hitems : (repeated (itemsWithin fixities)).Halts v :=
    .repeated fun _ => h.started (.moduleItems ⟨_, ht⟩ ⟨_, hu⟩ ⟨_, hv⟩)
  exact hitems.bind_pure

theorem header (h : CalleesHalt fixities n .header s) : Parser.header.Halts s := by
  rw [Parser.header]
  refine halts_take fun hk => .bind (Finishes.identifier _).halts fun name t ht => ?_
  refine .bind (h.within (.headerBindings hk ⟨_, ht⟩) _) fun exports u _ => ?_
  exact terminator_finishes.halts.bind_pure

theorem imports (h : CalleesHalt fixities n .imports s) : (importsWithin (n + 1)).Halts s := by
  rw [importsWithin]
  have hseparators : Parser.separators.Halts s := .repeated fun _ => h.started .importsSeparators
  refine hseparators.bind fun _ t ht => halts_consume (fun hk => ?_) fun _ => .pure []
  refine .bind (h.within (.importsLine ⟨_, ht⟩ hk)) fun first u hu => ?_
  exact .bind_pure (h.within (.importsNext ⟨_, ht⟩ hk ⟨_, hu⟩))

theorem importLine (h : CalleesHalt fixities n .importLine s) : importRest.Halts s := by
  rw [importRest]
  refine .bind (Finishes.identifier _).halts fun source t ht => ?_
  have hlocal : localName?.Halts t :=
    halts_consume (fun _ => (Finishes.identifier _).halts.bind_pure) fun _ => .pure none
  refine hlocal.bind fun localName u hu => ?_
  refine .bind (h.within (.importBindings ⟨_, ht⟩ ⟨_, hu⟩) _) fun bindings v _ => ?_
  exact terminator_finishes.halts.bind_pure

theorem bindings (fault : SyntaxFault) (h : CalleesHalt fixities n .bindings s) :
    (bindings? fault).Halts s := by
  rw [bindings?]
  refine halts_consume (fun hk => ?_) fun _ => .pure none
  refine halts_consume (fun _ => .pure _) fun hclose => ?_
  have hnames : (repeated (bindingsWithin fault)).Halts s.advance :=
    .repeated fun _ hm => h.started (.bindingsNames hk hclose) hm fault
  exact hnames.bind_pure

theorem names (fault : SyntaxFault) (h : CalleesHalt fixities n .names s) :
    (bindingsWithin fault (n + 1)).Halts s := by
  rw [bindingsWithin]
  refine .bind (Finishes.identifier _).halts fun first t ht => ?_
  refine halts_consume (fun _ => .pure _) fun _ => halts_take fun hk => ?_
  exact .bind_pure (h.within (.namesNext ⟨_, ht⟩ hk) fault)

theorem items (h : CalleesHalt fixities n .items s) : (itemsWithin fixities (n + 1)).Halts s := by
  rw [itemsWithin]
  have hseparators : Parser.separators.Halts s := .repeated fun _ => h.started .itemsSeparators
  refine hseparators.bind fun _ t ht => halts_current (halts_ite (fun _ => .pure []) fun hk => ?_)
  have hk : t.current.kind ≠ .endOfInput := by simpa using hk
  refine .bind (h.within (.itemsItem ⟨_, ht⟩ hk)) fun first u hu => ?_
  exact .bind_pure (h.within (.itemsNext ⟨_, ht⟩ hk ⟨_, hu⟩))

theorem deferred (kind : DeferredKind) (h : CalleesHalt fixities n .item s)
    (hk : s.current.kind.isSymbol .dataWord ∨ s.current.kind.isIdentifier) :
    (Parser.deferred kind).Halts s := by
  rw [Parser.deferred]
  have hline : (repeated fun n => do lineWithin n (← current).span).Halts s :=
    .repeated fun _ hm => halts_current (h.started (.itemLine hk) hm s.current.span)
  exact hline.bind fun span t _ => terminator_finishes.halts.bind_pure

theorem declaration (h : CalleesHalt fixities n .item s) :
    (Parser.declaration fixities).Halts s := by
  rw [Parser.declaration]
  refine .bind (Finishes.identifier _).halts fun binder t ht => halts_take fun hk => ?_
  have hbody : (Parser.expression fixities).Halts t.advance :=
    .repeated fun _ => h.started (.itemExpression ⟨_, ht⟩ hk)
  refine hbody.bind fun body? u _ => halts_expect fun body _ => ?_
  exact terminator_finishes.halts.bind_pure

theorem item (h : CalleesHalt fixities n .item s) : (Parser.item fixities).Halts s := by
  rw [Parser.item]
  refine halts_current (halts_ite (fun hk => .bind_pure (h.deferred _ (.inl hk))) fun _ => ?_)
  refine halts_ite (fun hk => halts_peek ?_) fun _ => halts_fail
  exact halts_ite (fun _ => .bind_pure (h.deferred _ (.inr hk))) fun _ => h.declaration.bind_pure

theorem line (span : Span) (h : CalleesHalt fixities n .line s) :
    (lineWithin (n + 1) span).Halts s := by
  by_cases hend : s.current.kind = .endOfInput ∨ s.current.kind = .symbol .semicolon
  · simp only [Halts, Ensures, lineWithin, if_pos hend]
  by_cases hbreak : s.current.kind = .lineBreak
  · by_cases hgoes : s.continues fun _ => true
    · refine (ensures_congr ?_).mpr (h.within (.lineContinued hgoes) span)
      simp only [lineWithin, if_neg hend, if_pos hbreak, if_pos hgoes]
    · simp only [Halts, Ensures, lineWithin, if_neg hend, if_pos hbreak, if_neg hgoes]
  · refine (ensures_congr (lineWithin_succ n span hend hbreak)).mpr ?_
    exact halts_merge fun span => halts_advance (h.within (.lineNext hend hbreak) span)

/-! ### Layout -/

theorem separators (h : CalleesHalt fixities n .separators s) :
    (separatorsWithin (n + 1)).Halts s := by
  rw [separatorsWithin]
  have hblanks : (repeated blankLinesWithin).Halts s :=
    .repeated fun _ => h.started .separatorsBlankLines
  refine hblanks.bind fun _ t ht => halts_consume (fun hk => ?_) fun _ => ?_
  · exact h.within (.separatorsNext ⟨_, ht⟩ hk)
  · exact halts_current (Finishes.require _ _).halts

theorem blankLines (h : CalleesHalt fixities n .blankLines s) :
    (blankLinesWithin (n + 1)).Halts s := by
  rw [blankLinesWithin]
  refine halts_current (halts_peek (halts_ite (fun hk => halts_advance ?_) fun _ => .pure ()))
  exact h.within (.blankLinesNext (by simpa using hk))

theorem lineBreaks (h : CalleesHalt fixities n .lineBreaks s) :
    (lineBreaksWithin (n + 1)).Halts s := by
  rw [lineBreaksWithin]
  refine halts_current (halts_ite (fun hk => halts_advance ?_) fun _ => .pure ())
  exact h.within (.lineBreaksNext hk)

theorem wholeExpression (h : CalleesHalt fixities n .wholeExpression s) :
    (Parser.wholeExpression fixities).Halts s := by
  rw [Parser.wholeExpression]
  have hexpression : (Parser.expression fixities).Halts s :=
    .repeated fun _ => h.started .wholeExpression
  refine hexpression.bind fun e? t ht => halts_expect ?_
  rintro e rfl
  have hbreaks : (repeated lineBreaksWithin).Halts t :=
    .repeated fun _ => h.started (.wholeLineBreaks ⟨_, _, ht⟩)
  exact hbreaks.bind fun _ u _ => halts_current (halts_require (.pure e))

end CalleesHalt

/-- A reader halts if all of its calls halt with one call less. The relation between callers and
callees leaves out no call, as without it the reader would not be known to halt. -/
theorem CalleesHalt.haltsWithin_succ (h : CalleesHalt fixities n r s) :
    r.HaltsWithin fixities (n + 1) s := by
  cases r with
  | wholeExpression => exact h.wholeExpression
  | expression => exact h.expression
  | elements => exact h.elements
  | binary band => exact h.binary
  | operations band => exact fun before? left => h.operations before? left
  | application => exact h.application
  | arguments => exact fun callee => h.arguments callee
  | factor => exact h.factor
  | members => exact fun value => h.members value
  | primary => exact h.primary
  | round => exact fun opening => h.round opening
  | curly => exact fun opening => h.curly opening
  | text => exact fun first => h.text first
  | segments => exact h.segments
  | module => exact h.module
  | header => exact h.header
  | imports => exact h.imports
  | importLine => exact h.importLine
  | bindings => exact fun fault => h.bindings fault
  | names => exact fun fault => h.names fault
  | items => exact h.items
  | item => exact h.item
  | line => exact fun span => h.line span
  | separators => exact h.separators
  | blankLines => exact h.blankLines
  | lineBreaks => exact h.lineBreaks

/-- With an end of input ahead, every reader halts with any number of calls that exceeds its
depth. -/
theorem haltsWithin_of_depth_lt (fixities : FixityTable) (r : Reader) (s : TokenStream)
    (hs : s.Ends) {n : Nat} (hn : r.depth s < n) : r.HaltsWithin fixities n s := by
  let P (r : Reader) (s : TokenStream) := ∀ n, r.depth s < n → r.HaltsWithin fixities n s
  refine Calls.induction fixities (P := P) (fun r s hs ih n hn => ?_) r s hs n hn
  obtain ⟨n, rfl⟩ := Nat.exists_eq_add_of_lt hn
  refine CalleesHalt.haltsWithin_succ fun r' t h m hm => ih r' t h m ?_
  have hlt : r'.depth t < r.depth s := (h.descends hs).depth_lt
  rcases hm with rfl | hfuel
  · omega
  · -- A loop starts with sixteen calls for each token ahead and with sixteen more.
    have hrank := r'.rank_le
    rw [TokenStream.fuel] at hfuel
    rw [Reader.depth]
    omega

end Parser

end Frontend
