import Frontend.Difference.Changes
import Frontend.Proofs.Source.Line

/-!
# The pieces of changes

The changes between two texts leave out nothing: the lines that are kept or removed are those of the
old text, and the lines that are kept or added are those of the new one, in their order
(`Difference.pieces_changes`). What is kept is a common subsequence of the lines of both texts, so
that the next line that is kept is always found in the rests of both.
-/

namespace Frontend

namespace Difference

/-! ### Common subsequences -/

section

variable {α : Type}

theorem sublist_take_succ {taken l : List α} {n : Nat} {a : α} (h : taken.Sublist (l.take n))
    (ha : l[n]? = some a) : (taken ++ [a]).Sublist (l.take (n + 1)) := by
  rw [List.take_add_one, ha]
  exact h.append (List.Sublist.refl [a])

theorem sublist_take_mono {taken l : List α} {n : Nat} (h : taken.Sublist (l.take n)) :
    taken.Sublist (l.take (n + 1)) :=
  h.trans (List.take_prefix_take_left (Nat.le_succ n)).sublist

variable [DecidableEq α]

/-- The way back through the table finds what the initial parts of both lists have in common. -/
theorem exists_walk_eq (first second : Array α) (cells : Array Nat) (i j : Nat) (found : List α) :
    ∃ taken, walk first second cells i j found = taken ++ found ∧
      taken.Sublist (first.toList.take i) ∧ taken.Sublist (second.toList.take j) := by
  fun_induction walk first second cells i j found with
  | case1 j found => exact ⟨[], rfl, List.nil_sublist _, List.nil_sublist _⟩
  | case2 i found => exact ⟨[], rfl, List.nil_sublist _, List.nil_sublist _⟩
  | case3 found i j a hb ha ih =>
    obtain ⟨taken, htaken, hfirst, hsecond⟩ := ih
    refine ⟨taken ++ [a], by simpa using htaken, ?_, ?_⟩
    · exact sublist_take_succ hfirst (by simpa using ha)
    · exact sublist_take_succ hsecond (by simpa using hb)
  | case4 => exact ⟨[], rfl, List.nil_sublist _, List.nil_sublist _⟩
  | case5 _ _ _ _ _ _ _ _ _ _ ih =>
    obtain ⟨taken, htaken, hfirst, hsecond⟩ := ih
    exact ⟨taken, htaken, hfirst, sublist_take_mono hsecond⟩
  | case6 _ _ _ _ _ _ _ _ _ _ ih =>
    obtain ⟨taken, htaken, hfirst, hsecond⟩ := ih
    exact ⟨taken, htaken, sublist_take_mono hfirst, hsecond⟩
  | case7 => exact ⟨[], rfl, List.nil_sublist _, List.nil_sublist _⟩

theorem common_sublist (first second : List α) :
    (common first second).Sublist first ∧ (common first second).Sublist second := by
  obtain ⟨taken, htaken, hfirst, hsecond⟩ := exists_walk_eq first.toArray second.toArray
    (table first second) first.length second.length []
  rw [common, htaken, List.append_nil]
  simp only [List.take_length] at hfirst hsecond
  exact ⟨hfirst, hsecond⟩

end

/-! ### Pieces of texts -/

theorem splitText_eq_splitChar (separator : Char) (text : List Char) :
    Text.splitText separator [] text = Text.splitChar separator text := by
  induction text with
  | nil => rw [Text.splitText, Text.splitChar]
  | cons c text ih =>
    rw [Text.splitText, Text.splitChar, List.length_nil, List.drop_zero, ih]
    by_cases hc : c = separator
    · simp [hc]
    · simp [hc, Ne.symm hc]

theorem not_mem_of_mem_splitChar {separator : Char} {text piece : List Char}
    (h : piece ∈ Text.splitChar separator text) : separator ∉ piece := by
  induction text generalizing piece with
  | nil =>
    rw [List.mem_singleton.mp h]
    exact List.not_mem_nil
  | cons c text ih =>
    by_cases hc : c = separator
    · rw [Text.splitChar, if_pos hc] at h
      rcases List.mem_cons.mp h with rfl | h
      · exact List.not_mem_nil
      · exact ih h
    · obtain ⟨first, pieces, hpieces, hcons⟩ := Text.splitChar_cons_of_ne hc text
      rw [hpieces] at ih
      rw [hcons] at h
      rcases List.mem_cons.mp h with rfl | h
      · simpa [Ne.symm hc] using ih List.mem_cons_self
      · exact ih (List.mem_cons_of_mem first h)

/-- Pieces that are joined are those that the text is split into again. -/
theorem splitChar_join {separator : Char} {pieces : List (List Char)} (hne : pieces ≠ [])
    (h : ∀ p ∈ pieces, separator ∉ p) :
    Text.splitChar separator (join [separator] pieces) = pieces := by
  induction pieces with
  | nil => exact absurd rfl hne
  | cons piece pieces ih =>
    obtain ⟨hpiece, hpieces⟩ := List.forall_mem_cons.mp h
    cases pieces with
    | nil => simpa [join] using Text.splitChar_of_not_mem hpiece
    | cons next pieces =>
      rw [join] at ih ⊢
      rw [List.intercalate_cons_cons, List.append_assoc, List.singleton_append,
        Text.splitChar_append_cons, Text.splitChar_of_not_mem hpiece,
        ih (List.cons_ne_nil next pieces) hpieces, List.singleton_append]

/-- The lines of a text. An empty text has none. -/
def linesOf (text : List Char) : List (List Char) := changedPieces ['\n'] text

theorem linesOf_eq (text : List Char) :
    linesOf text = if text = [] then [] else Text.splitChar '\n' text := by
  simp [linesOf, changedPieces, splitText_eq_splitChar]

theorem not_mem_of_mem_linesOf {text line : List Char} (h : line ∈ linesOf text) :
    '\n' ∉ line := by
  rw [linesOf_eq] at h
  split at h
  · cases h
  · exact not_mem_of_mem_splitChar h

/-- Some of the lines of a text, joined and split again. -/
theorem sublist_linesOf {pieces : List (List Char)} {text : List Char}
    (h : pieces.Sublist (comparedPieces ['\n'] text)) :
    (linesOf (join ['\n'] pieces)).Sublist (linesOf text) := by
  rw [comparedPieces, splitText_eq_splitChar] at h
  by_cases hjoin : join ['\n'] pieces = []
  · rw [linesOf_eq, if_pos hjoin]
    exact List.nil_sublist _
  · have hne : pieces ≠ [] := by
      rintro rfl
      exact hjoin rfl
    have htext : text ≠ [] := by
      rintro rfl
      rcases List.sublist_singleton.mp h with rfl | rfl
      · exact hne rfl
      · exact hjoin rfl
    rw [linesOf_eq, if_neg hjoin, linesOf_eq, if_neg htext,
      splitChar_join hne fun p hp => not_mem_of_mem_splitChar (h.subset hp)]
    exact h

/-! ### Pieces that are taken -/

theorem takeSame_eq (old new kept : List (List Char)) :
    ∃ same old' new' kept', takeSame old new kept = (same, old', new', kept') ∧
      old = same ++ old' ∧ new = same ++ new' ∧ kept = same ++ kept' ∧
      ∀ k ks, kept' = k :: ks → old'.head? = some k → new'.head? ≠ some k := by
  fun_induction takeSame old new kept with
  | case1 o os n ns k ks hk same rests hrec ih =>
    obtain ⟨same', old', new', kept', heq, hold, hnew, hkept, hstop⟩ := ih
    cases heq.symm.trans hrec
    exact ⟨_, _, _, _, rfl, by rw [hold, List.cons_append],
      by rw [hnew, hk.1, hk.2, List.cons_append],
      by rw [hkept, hk.1, List.cons_append], hstop⟩
  | case2 o os n ns k ks hne =>
    refine ⟨[], _, _, _, rfl, rfl, rfl, rfl, ?_⟩
    rintro k' ks' ⟨⟩ ho hn
    exact hne ⟨Option.some.inj ho, Option.some.inj hn⟩
  | case3 old new kept hshort =>
    refine ⟨[], _, _, _, rfl, rfl, rfl, rfl, ?_⟩
    rintro k ks rfl ho hn
    obtain ⟨os, rfl⟩ := List.head?_eq_some_iff.mp ho
    obtain ⟨ns, rfl⟩ := List.head?_eq_some_iff.mp hn
    exact hshort k os k ns k ks rfl rfl rfl

/-- The next piece that is kept stays in the list when the pieces before it are taken. -/
theorem sublist_drop_takeOther {kept pieces : List (List Char)} (h : kept.Sublist pieces) :
    kept.Sublist (pieces.drop (takeOther kept pieces).length) := by
  cases kept with
  | nil => exact List.nil_sublist _
  | cons k ks =>
    rw [takeOther]
    induction pieces with
    | nil => cases h
    | cons p pieces ih =>
      by_cases hp : p = k
      · simpa [hp] using h
      · have hrest : (k :: ks).Sublist pieces := by
          cases h with
          | cons _ h => exact h
          | cons_cons _ h => exact absurd rfl hp
        simpa [hp] using ih hrest

theorem takeOther_append (kept pieces : List (List Char)) :
    takeOther kept pieces ++ pieces.drop (takeOther kept pieces).length = pieces := by
  cases kept with
  | nil => simp [takeOther]
  | cons k ks =>
    rw [takeOther]
    exact List.prefix_iff_eq_append.mp (List.takeWhile_prefix _)

/-! ### Changes -/

namespace Change

/-- The text of a change. -/
def text : Change → List Char
  | same t    => t
  | added t   => t
  | removed t => t

/-- The character that the lines of a change are marked with. -/
def mark : Change → Char
  | same _    => ' '
  | added _   => '+'
  | removed _ => '-'

/-- The lines that a change is made of, unless they have the mark `m`. -/
def piecesBut (m : Char) (c : Change) : List (List Char) :=
  if c.mark = m then [] else Text.splitChar '\n' c.text

end Change

theorem head?_eq_of_takeOther_eq_nil {k : List Char} {ks pieces : List (List Char)}
    (h : (k :: ks).Sublist pieces) (hnil : takeOther (k :: ks) pieces = []) :
    pieces.head? = some k := by
  cases pieces with
  | nil => cases h
  | cons p pieces =>
    by_cases hp : p = k
    · rw [hp, List.head?_cons]
    · simp [takeOther, hp] at hnil

/-! ### Rounds of changes -/

/-- What one round takes of the pieces of both sides, and what it leaves. -/
structure Round (old new kept same removed added restOld restNew restKept : List (List Char)) :
    Prop where
  old_eq : old = same ++ (removed ++ restOld)
  new_eq : new = same ++ (added ++ restNew)
  kept_old : restKept.Sublist restOld
  kept_new : restKept.Sublist restNew
  progress : ¬ (restOld.isEmpty && restNew.isEmpty) →
    restOld.length + restNew.length < old.length + new.length
  changes_eq : ∀ fuel, changesWithin ['\n'] (fuel + 1) old new kept =
    (if same.isEmpty then [] else [.same (join ['\n'] same)]) ++
      (if removed.isEmpty then [] else [.removed (join ['\n'] removed)]) ++
      (if added.isEmpty then [] else [.added (join ['\n'] added)]) ++
      (if restOld.isEmpty && restNew.isEmpty then []
        else changesWithin ['\n'] fuel restOld restNew restKept)

/-- A round takes a piece of one of the sides, unless there is none. -/
theorem exists_round {old new kept : List (List Char)} (hold : kept.Sublist old)
    (hnew : kept.Sublist new) : ∃ same removed added restOld restNew restKept,
      Round old new kept same removed added restOld restNew restKept := by
  obtain ⟨same, old', new', kept', htake, rfl, rfl, rfl, hstop⟩ := takeSame_eq old new kept
  replace hold := (List.append_sublist_append_left same).mp hold
  replace hnew := (List.append_sublist_append_left same).mp hnew
  have holdRest := takeOther_append kept' old'
  have hnewRest := takeOther_append kept' new'
  refine ⟨same, takeOther kept' old', takeOther kept' new',
    old'.drop (takeOther kept' old').length, new'.drop (takeOther kept' new').length, kept', ?_⟩
  refine
    { old_eq := by rw [holdRest]
      new_eq := by rw [hnewRest]
      kept_old := sublist_drop_takeOther hold
      kept_new := sublist_drop_takeOther hnew
      progress := ?_
      changes_eq := fun fuel => by simp [changesWithin, htake] }
  cases kept' with
  | nil => simp [takeOther]
  | cons k ks =>
    intro _
    have hpiece : takeOther (k :: ks) old' ≠ [] ∨ takeOther (k :: ks) new' ≠ [] := by
      by_contra hnone
      obtain ⟨hremoved, hadded⟩ := not_or.mp hnone
      exact hstop k ks rfl (head?_eq_of_takeOther_eq_nil hold (not_not.mp hremoved))
        (head?_eq_of_takeOther_eq_nil hnew (not_not.mp hadded))
    replace hpiece := hpiece.imp List.length_pos_of_ne_nil List.length_pos_of_ne_nil
    replace holdRest := congrArg List.length holdRest
    replace hnewRest := congrArg List.length hnewRest
    rw [List.length_append] at holdRest hnewRest
    rw [List.length_append, List.length_append]
    omega

/-- The change that a group of pieces makes up is split into the group again. -/
theorem flatMap_splitChar_join {f : Change → List (List Char)} {make : List Char → Change}
    {group : List (List Char)} (hf : ∀ t, f (make t) = Text.splitChar '\n' t)
    (h : ∀ p ∈ group, '\n' ∉ p) :
    (if group.isEmpty then [] else [make (join ['\n'] group)]).flatMap f = group := by
  cases group with
  | nil => rfl
  | cons p ps => simp [hf, splitChar_join (List.cons_ne_nil p ps) h]

theorem flatMap_eq_nil_of_forall {f : Change → List (List Char)} {make : List Char → Change}
    (group : List (List Char)) (hf : ∀ t, f (make t) = []) :
    (if group.isEmpty then [] else [make (join ['\n'] group)]).flatMap f = [] := by
  cases group with
  | nil => rfl
  | cons p ps => simp [hf]

/-- The changes are made of all pieces, if those that are kept are pieces of both sides. -/
theorem pieces_changesWithin (fuel : Nat) {old new kept : List (List Char)}
    (hfuel : old.length + new.length ≤ fuel) (hold : kept.Sublist old) (hnew : kept.Sublist new)
    (holdLines : ∀ p ∈ old, '\n' ∉ p) (hnewLines : ∀ p ∈ new, '\n' ∉ p) :
    (changesWithin ['\n'] fuel old new kept).flatMap (Change.piecesBut '+') = old ∧
      (changesWithin ['\n'] fuel old new kept).flatMap (Change.piecesBut '-') = new := by
  induction fuel generalizing old new kept with
  | zero =>
    obtain ⟨ho, hn⟩ : old.length = 0 ∧ new.length = 0 := by omega
    rw [List.length_eq_zero_iff.mp ho, List.length_eq_zero_iff.mp hn]
    exact ⟨rfl, rfl⟩
  | succ fuel ih =>
    obtain ⟨same, removed, added, restOld, restNew, restKept, hround⟩ := exists_round hold hnew
    rw [hround.old_eq] at holdLines
    rw [hround.new_eq] at hnewLines
    simp only [List.forall_mem_append] at holdLines hnewLines
    obtain ⟨hsame, hremoved, hrestOld⟩ := holdLines
    obtain ⟨-, hadded, hrestNew⟩ := hnewLines
    have hrest : (if restOld.isEmpty && restNew.isEmpty then []
          else changesWithin ['\n'] fuel restOld restNew restKept).flatMap (Change.piecesBut '+') =
            restOld ∧
        (if restOld.isEmpty && restNew.isEmpty then []
          else changesWithin ['\n'] fuel restOld restNew restKept).flatMap (Change.piecesBut '-') =
            restNew := by
      split
      · next hnil =>
        obtain ⟨rfl, rfl⟩ : restOld = [] ∧ restNew = [] := by simpa using hnil
        exact ⟨rfl, rfl⟩
      · next hne =>
        have hprogress := hround.progress hne
        exact ih (by omega) hround.kept_old hround.kept_new hrestOld hrestNew
    rw [hround.changes_eq]
    simp only [List.flatMap_append]
    constructor
    · rw [hrest.1, flatMap_splitChar_join (fun _ => rfl) hsame,
        flatMap_splitChar_join (fun _ => rfl) hremoved, flatMap_eq_nil_of_forall added fun _ => rfl,
        List.append_nil, List.append_assoc, hround.old_eq]
    · rw [hrest.2, flatMap_splitChar_join (fun _ => rfl) hsame,
        flatMap_splitChar_join (fun _ => rfl) hadded, flatMap_eq_nil_of_forall removed fun _ => rfl,
        List.append_nil, List.append_assoc, hround.new_eq]

/-- The lines of two texts are those of the changes between them. -/
theorem pieces_changes (old new : List Char) :
    (changes ['\n'] old new).flatMap (Change.piecesBut '+') = linesOf old ∧
      (changes ['\n'] old new).flatMap (Change.piecesBut '-') = linesOf new := by
  obtain ⟨hold, hnew⟩ := common_sublist (comparedPieces ['\n'] old) (comparedPieces ['\n'] new)
  exact pieces_changesWithin _ (Nat.le_refl _) (sublist_linesOf hold) (sublist_linesOf hnew)
    (fun _ => not_mem_of_mem_linesOf) (fun _ => not_mem_of_mem_linesOf)

end Difference

end Frontend
