import Frontend.OrderedList
import Mathlib.Data.List.Pairwise

/-!
# Ordered lists as sets

An increasing list is settled by its members: there is one for each set. The list of elements in
order has the members of the given list, unless different ones of them compare equal, so that
neither their order nor their multiplicity matters.
-/

namespace Frontend.OrderedList

variable {α : Type} [Ord α] {a x : α} {as bs : List α}

/-! ### Members -/

/-- Elements that compare equal are identical. -/
def Faithful (as : List α) : Prop := ∀ a ∈ as, ∀ b ∈ as, compare a b = .eq → a = b

theorem Faithful.filter (h : Faithful as) (p : α → Bool) : Faithful (as.filter p) :=
  fun a ha b hb => h a (List.mem_filter.mp ha).1 b (List.mem_filter.mp hb).1

theorem mem_insert_iff (h : ∀ b ∈ as, compare a b = .eq → a = b) :
    x ∈ insert a as ↔ x = a ∨ x ∈ as := by
  constructor
  · exact mem_of_mem_insert
  · induction as with
    | nil =>
      intro hx
      simpa [insert] using hx
    | cons b bs ih =>
      intro hx
      have hbs : ∀ c ∈ bs, compare a c = .eq → a = c :=
        fun c hc => h c (List.mem_cons_of_mem b hc)
      unfold insert
      split
      · exact List.mem_cons.mpr hx
      · next hab =>
        obtain rfl := h b List.mem_cons_self hab
        rcases hx with rfl | hx
        · exact List.mem_cons_self
        · exact hx
      · rw [List.mem_cons]
        rcases hx with rfl | hx
        · exact .inr (ih hbs (.inl rfl))
        · rcases List.mem_cons.mp hx with rfl | hx
          · exact .inl rfl
          · exact .inr (ih hbs (.inr hx))

theorem insert_ne_nil (a : α) (as : List α) : insert a as ≠ [] := by
  cases as with
  | nil => exact List.cons_ne_nil a []
  | cons b bs =>
    rw [insert]
    split <;> exact List.cons_ne_nil _ _

theorem mem_of_mem_insertAll {new : List α} (h : x ∈ insertAll as new) : x ∈ as ∨ x ∈ new := by
  induction new generalizing as with
  | nil => exact .inl h
  | cons a new ih =>
    rcases ih h with h | h
    · rcases mem_of_mem_insert h with rfl | h
      · exact .inr List.mem_cons_self
      · exact .inl h
    · exact .inr (List.mem_cons_of_mem a h)

theorem insertAll_eq_nil_iff {new : List α} : insertAll as new = [] ↔ as = [] ∧ new = [] := by
  induction new generalizing as with
  | nil => simp [insertAll]
  | cons a new ih =>
    have hrest : insertAll as (a :: new) = [] ↔ insert a as = [] ∧ new = [] := ih
    simp [hrest, insert_ne_nil]

theorem mem_insertAll_iff {new : List α} (h : Faithful (as ++ new)) :
    x ∈ insertAll as new ↔ x ∈ as ∨ x ∈ new := by
  induction new generalizing as with
  | nil => simp [insertAll]
  | cons a new ih =>
    have ha : a ∈ as ++ a :: new := List.mem_append_right as List.mem_cons_self
    have hinsert (y : α) : y ∈ insert a as ↔ y = a ∨ y ∈ as :=
      mem_insert_iff fun b hb => h a ha b (List.mem_append_left _ hb)
    -- What has been inserted and what is still to be are elements of the given lists.
    have hsubset : ∀ y ∈ insert a as ++ new, y ∈ as ++ a :: new := by
      intro y hy
      rcases List.mem_append.mp hy with hy | hy
      · rcases (hinsert y).mp hy with rfl | hy
        · exact ha
        · exact List.mem_append_left _ hy
      · exact List.mem_append_right as (List.mem_cons_of_mem a hy)
    have hfaithful : Faithful (insert a as ++ new) :=
      fun b hb c hc => h b (hsubset b hb) c (hsubset c hc)
    have hrest : x ∈ insertAll (insert a as) new ↔ x ∈ insert a as ∨ x ∈ new := ih hfaithful
    rw [show insertAll as (a :: new) = insertAll (insert a as) new from rfl, hrest, hinsert,
      List.mem_cons, or_assoc, or_left_comm]

theorem mem_of_mem_ofList (h : x ∈ ofList as) : x ∈ as :=
  (mem_of_mem_insertAll h).resolve_left List.not_mem_nil

theorem ofList_eq_nil_iff : ofList as = [] ↔ as = [] := by
  rw [ofList, insertAll_eq_nil_iff]
  simp

/-- Each element is in order exactly once. -/
theorem mem_ofList_iff (h : Faithful as) : x ∈ ofList as ↔ x ∈ as := by
  have hall : Faithful ([] ++ as) := h
  rw [ofList, mem_insertAll_iff hall]
  simp

/-! ### Order -/

variable [Std.TransOrd α]

theorem Increasing.nodup (h : Increasing as) : as.Nodup := by
  refine h.imp ?_
  rintro a _ hlt rfl
  rw [Std.ReflOrd.compare_self] at hlt
  cases hlt

theorem Increasing.faithful (h : Increasing as) : Faithful as := by
  have hsame : as.Pairwise fun a b => compare a b = .eq → a = b := by
    refine h.imp ?_
    intro a b hlt heq
    rw [hlt] at heq
    cases heq
  have hflip : as.Pairwise fun a b => compare b a = .eq → b = a := by
    refine hsame.imp ?_
    intro a b hab heq
    exact (hab (Std.OrientedCmp.eq_symm heq)).symm
  exact fun a ha b hb => hsame.forall_of_forall_of_flip (fun _ _ _ => rfl) hflip ha hb

/-- There is one increasing list of the same elements. -/
theorem Increasing.eq_of_mem_iff (ha : Increasing as) (hb : Increasing bs)
    (h : ∀ x, x ∈ as ↔ x ∈ bs) : as = bs := by
  have hperm : as.Perm bs := (List.perm_ext_iff_of_nodup ha.nodup hb.nodup).mpr h
  refine hperm.eq_of_pairwise ?_ ha hb
  intro x y _ _ hxy hyx
  exact absurd hyx (Std.OrientedCmp.not_lt_of_lt hxy)

/-- Neither the order of the elements nor their multiplicity matters. -/
theorem ofList_eq_of_mem_iff (ha : Faithful as) (h : ∀ x, x ∈ as ↔ x ∈ bs) :
    ofList as = ofList bs := by
  have hb : Faithful bs := fun x hx y hy => ha x ((h x).mpr hx) y ((h y).mpr hy)
  refine (increasing_ofList as).eq_of_mem_iff (increasing_ofList bs) fun x => ?_
  rw [mem_ofList_iff ha, mem_ofList_iff hb, h]

/-- Elements that are in order stay as they are. -/
theorem Increasing.ofList_eq (h : Increasing as) : ofList as = as :=
  (increasing_ofList as).eq_of_mem_iff h fun _ => mem_ofList_iff h.faithful

end Frontend.OrderedList
