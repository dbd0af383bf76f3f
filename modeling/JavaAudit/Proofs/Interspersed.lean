import Mathlib.Data.List.Forall2

/-! Lists with elements put in.

What passes over the new elements sees the other ones in their order. -/

set_option autoImplicit false

namespace JavaAudit

theorem rel_head? {α : Type} {related : α → α → Prop} {before after : List α}
    (lists : List.Forall₂ related before after) :
    Option.Rel related before.head? after.head? := by
  cases lists with
  | nil => exact .none
  | cons same _ => exact .some same

theorem map_eq_of_forall₂ {α β : Type} {related : α → α → Prop} {before after : List α}
    {f g : α → β} (lists : List.Forall₂ related before after)
    (same : ∀ first second, related first second → g second = f first) :
    after.map g = before.map f := by
  induction lists with
  | nil => rfl
  | cons related _ ih => rw [List.map_cons, List.map_cons, same _ _ related, ih]

theorem any_eq_of_forall₂ {α : Type} {related : α → α → Prop} {before after : List α}
    {f g : α → Bool} (lists : List.Forall₂ related before after)
    (same : ∀ first second, related first second → g second = f first) :
    after.any g = before.any f := by
  induction lists with
  | nil => rfl
  | cons related _ ih => rw [List.any_cons, List.any_cons, same _ _ related, ih]

/-- The second list is the first with new elements put in; the others correspond in order. -/
inductive Interspersed {α : Type} (isNew : α → Prop) (related : α → α → Prop) :
    List α → List α → Prop where
  | nil : Interspersed isNew related [] []
  | keep {first second : α} {before after : List α} (same : related first second)
      (rest : Interspersed isNew related before after) :
      Interspersed isNew related (first :: before) (second :: after)
  | insert {added : α} {before after : List α} (new : isNew added)
      (rest : Interspersed isNew related before after) :
      Interspersed isNew related before (added :: after)

namespace Interspersed

variable {α β : Type} {isNew : α → Prop} {related : α → α → Prop} {before after : List α}

theorem of_forall₂ (lists : List.Forall₂ related before after) :
    Interspersed isNew related before after := by
  induction lists with
  | nil => exact .nil
  | cons same _ ih => exact .keep same ih

theorem append {moreBefore moreAfter : List α} (first : Interspersed isNew related before after)
    (second : Interspersed isNew related moreBefore moreAfter) :
    Interspersed isNew related (before ++ moreBefore) (after ++ moreAfter) := by
  induction first with
  | nil => exact second
  | keep same _ ih => exact .keep same ih
  | insert new _ ih => exact .insert new ih

theorem of_forall_new {items : List α} (new : ∀ item ∈ items, isNew item) :
    Interspersed isNew related [] items := by
  induction items with
  | nil => exact .nil
  | cons item rest ih =>
    rw [List.forall_mem_cons] at new
    exact .insert new.1 (ih new.2)

theorem imp {isNew' : α → Prop} {related' : α → α → Prop}
    (list : Interspersed isNew related before after) (new : ∀ added, isNew added → isNew' added)
    (same : ∀ first second, related first second → related' first second) :
    Interspersed isNew' related' before after := by
  induction list with
  | nil => exact .nil
  | keep related _ ih => exact .keep (same _ _ related) ih
  | insert isNew _ ih => exact .insert (new _ isNew) ih

theorem with_mem (list : Interspersed isNew related before after) :
    Interspersed isNew (fun first second => related first second ∧ first ∈ before) before
      after := by
  induction list with
  | nil => exact .nil
  | keep same _ ih =>
    refine .keep ⟨same, List.mem_cons_self ..⟩ (ih.imp (fun _ new => new) ?_)
    rintro first second ⟨sameRest, inBefore⟩
    exact ⟨sameRest, List.mem_cons_of_mem _ inBefore⟩
  | insert new _ ih => exact .insert new ih

theorem reverse (list : Interspersed isNew related before after) :
    Interspersed isNew related before.reverse after.reverse := by
  induction list with
  | nil => exact .nil
  | keep same _ ih =>
    rw [List.reverse_cons, List.reverse_cons]
    exact ih.append (.keep same .nil)
  | insert new _ ih =>
    rw [List.reverse_cons, ← List.append_nil (List.reverse _)]
    exact ih.append (.insert new .nil)

theorem eq_nil_iff (list : Interspersed isNew related before after)
    (leaf : before = [] → after = []) : after = [] ↔ before = [] := by
  refine ⟨?_, leaf⟩
  rintro rfl
  cases list
  rfl

theorem flatMap {isNew' : β → Prop} {related' : β → β → Prop} {f g : α → List β}
    (list : Interspersed isNew related before after)
    (new : ∀ added, isNew added → ∀ item ∈ g added, isNew' item)
    (same : ∀ first second, related first second →
      Interspersed isNew' related' (f first) (g second)) :
    Interspersed isNew' related' (before.flatMap f) (after.flatMap g) := by
  induction list with
  | nil => exact .nil
  | keep related _ ih => exact (same _ _ related).append ih
  | insert isNew _ ih => exact (of_forall_new (new _ isNew)).append ih

theorem flatMap_eq {f g : α → List β} (list : Interspersed isNew related before after)
    (new : ∀ added, isNew added → g added = [])
    (same : ∀ first second, related first second → g second = f first) :
    after.flatMap g = before.flatMap f := by
  induction list with
  | nil => rfl
  | keep related _ ih => rw [List.flatMap_cons, List.flatMap_cons, same _ _ related, ih]
  | insert isNew _ ih => rw [List.flatMap_cons, new _ isNew, ih, List.nil_append]

theorem filterMap_eq {f g : α → Option β} (list : Interspersed isNew related before after)
    (new : ∀ added, isNew added → g added = none)
    (same : ∀ first second, related first second → g second = f first) :
    after.filterMap g = before.filterMap f := by
  rw [List.filterMap_eq_flatMap_toList, List.filterMap_eq_flatMap_toList]
  refine list.flatMap_eq (fun added isNew => ?_) fun first second related => ?_
  · rw [new added isNew, Option.toList_none]
  · rw [same first second related]

theorem isNew_or_exists_before (list : Interspersed isNew related before after) {second : α}
    (member : second ∈ after) : isNew second ∨ ∃ first ∈ before, related first second := by
  induction list with
  | nil => cases member
  | keep same _ ih =>
    rcases List.mem_cons.mp member with rfl | inRest
    · exact .inr ⟨_, List.mem_cons_self .., same⟩
    · refine (ih inRest).imp_right ?_
      rintro ⟨first, found, related⟩
      exact ⟨first, List.mem_cons_of_mem _ found, related⟩
  | insert new _ ih =>
    rcases List.mem_cons.mp member with rfl | inRest
    · exact .inl new
    · exact ih inRest

theorem filter {wanted : α → Bool} (list : Interspersed isNew related before after)
    (same : ∀ first second, related first second → wanted second = wanted first) :
    Interspersed (fun added => isNew added ∧ wanted added = true) related (before.filter wanted)
      (after.filter wanted) := by
  induction list with
  | nil => exact .nil
  | keep related _ ih =>
    rw [List.filter_cons, List.filter_cons, same _ _ related]
    split
    · exact .keep related ih
    · exact ih
  | insert isNew _ ih =>
    rw [List.filter_cons]
    split
    next isWanted => exact .insert ⟨isNew, isWanted⟩ ih
    next => exact ih

theorem forall₂ (list : Interspersed isNew related before after) (old : ∀ added, ¬isNew added) :
    List.Forall₂ related before after := by
  induction list with
  | nil => exact .nil
  | keep related _ ih => exact .cons related ih
  | insert isNew _ _ => exact absurd isNew (old _)

theorem forall₂_filter {wanted : α → Bool} (list : Interspersed isNew related before after)
    (new : ∀ added, isNew added → wanted added = false)
    (same : ∀ first second, related first second → wanted second = wanted first) :
    List.Forall₂ related (before.filter wanted) (after.filter wanted) := by
  refine (list.filter same).forall₂ ?_
  rintro added ⟨isNew, isWanted⟩
  rw [new added isNew] at isWanted
  cases isWanted

theorem find? {wanted : α → Bool} (list : Interspersed isNew related before after)
    (new : ∀ added, isNew added → wanted added = false)
    (same : ∀ first second, related first second → wanted second = wanted first) :
    Option.Rel (fun first second => related first second ∧ first ∈ before ∧ wanted first = true)
      (before.find? wanted) (after.find? wanted) := by
  rw [← List.head?_filter, ← List.head?_filter]
  refine rel_head? (((list.filter same).with_mem.imp (fun _ new => new) ?_).forall₂ ?_)
  · rintro first second ⟨related, inBefore⟩
    exact ⟨related, List.mem_filter.mp inBefore⟩
  · rintro added ⟨isNew, isWanted⟩
    rw [new added isNew] at isWanted
    cases isWanted

end Interspersed

section
variable {α β : Type} {related : α → α → Prop} {before after : Option α}

theorem bind_eq_of_rel (found : Option.Rel related before after) {f g : α → Option β}
    (same : ∀ first second, related first second → g second = f first) :
    after.bind g = before.bind f := by
  cases found with
  | none => rfl
  | some related => exact same _ _ related

theorem rel_imp {related' : α → α → Prop} (found : Option.Rel related before after)
    (same : ∀ first second, related first second → related' first second) :
    Option.Rel related' before after := by
  cases found with
  | none => exact .none
  | some related => exact .some (same _ _ related)

theorem rel_bind {related' : β → β → Prop} {f g : α → Option β}
    (found : Option.Rel related before after)
    (same : ∀ first second, related first second → Option.Rel related' (f first) (g second)) :
    Option.Rel related' (before.bind f) (after.bind g) := by
  cases found with
  | none => exact .none
  | some related => exact same _ _ related

theorem isSome_eq_of_rel (found : Option.Rel related before after) :
    after.isSome = before.isSome := by
  cases found <;> rfl

theorem any_eq_of_rel (found : Option.Rel related before after) {f g : α → Bool}
    (same : ∀ first second, related first second → g second = f first) :
    after.any g = before.any f := by
  cases found with
  | none => rfl
  | some related => exact same _ _ related

theorem map_eq_of_rel (found : Option.Rel related before after) {f g : α → β}
    (same : ∀ first second, related first second → g second = f first) :
    after.map g = before.map f := by
  cases found with
  | none => rfl
  | some related => exact congrArg _ (same _ _ related)

end

end JavaAudit
