set_option autoImplicit false

namespace NetDesign

/-- A comparison tells which of two items may precede the other. -/
theorem isLE_or_isLE {α : Type} [Ord α] [Std.OrientedOrd α] (a b : α) :
    (compare a b).isLE ∨ (compare b a).isLE := by
  have swap : compare a b = (compare b a).swap := Std.OrientedOrd.eq_swap
  rw [swap]
  cases compare b a <;> simp

variable {α : Type} (le : α → α → Bool)

/-- Puts an item in front of the first one that it may precede. -/
def putInOrder (a : α) : List α → List α
  | [] => [a]
  | b :: rest => if le a b then a :: b :: rest else b :: putInOrder a rest

/-- Sorts by insertion, so that closed lists can be sorted inside a proof. Items that tie keep their
order. -/
def sorted : List α → List α
  | [] => []
  | a :: rest => putInOrder le a (sorted rest)

theorem putInOrder_perm (a : α) (items : List α) : (putInOrder le a items).Perm (a :: items) := by
  induction items with
  | nil => exact .refl _
  | cons b rest ih =>
    unfold putInOrder
    split
    · exact .refl _
    · exact (ih.cons b).trans (.swap a b rest)

theorem sorted_perm (items : List α) : (sorted le items).Perm items := by
  induction items with
  | nil => exact .refl _
  | cons a rest ih => exact (putInOrder_perm le a (sorted le rest)).trans (ih.cons a)

/-- An item put in front of the first one that it may precede keeps its place before those that tie
with it. -/
theorem pairwise_putInOrder (trans : ∀ a b c, le a b → le b c → le a c)
    (total : ∀ a b, le a b ∨ le b a) {before : α → α → Prop} {a : α} {items : List α}
    (first : ∀ b ∈ items, before a b)
    (ascending : items.Pairwise fun a b => le a b ∧ (le b a → before a b)) :
    (putInOrder le a items).Pairwise fun a b => le a b ∧ (le b a → before a b) := by
  induction items with
  | nil => exact List.pairwise_singleton _ _
  | cons b rest ih =>
    have ⟨above, tail⟩ := List.pairwise_cons.1 ascending
    unfold putInOrder
    split
    case isTrue lower =>
      refine List.pairwise_cons.2 ⟨fun c mem => ⟨?_, fun _ => first c mem⟩, ascending⟩
      rcases List.mem_cons.1 mem with rfl | mem
      · exact lower
      · exact trans a b c lower (above c mem).1
    case isFalse higher =>
      have firstOfRest : ∀ c ∈ rest, before a c := fun c mem => first c (List.mem_cons_of_mem b mem)
      refine List.pairwise_cons.2 ⟨fun c mem => ?_, ih firstOfRest tail⟩
      rcases List.mem_cons.1 ((putInOrder_perm le a rest).mem_iff.1 mem) with rfl | mem
      · exact ⟨(total c b).resolve_left higher, fun lower => absurd lower higher⟩
      · exact above c mem

/-- Sorting keeps the order of items that tie. -/
theorem pairwise_sorted_of_pairwise (trans : ∀ a b c, le a b → le b c → le a c)
    (total : ∀ a b, le a b ∨ le b a) {before : α → α → Prop} {items : List α}
    (ordered : items.Pairwise before) :
    (sorted le items).Pairwise fun a b => le a b ∧ (le b a → before a b) := by
  induction items with
  | nil => exact .nil
  | cons a rest ih =>
    obtain ⟨first, tail⟩ := List.pairwise_cons.1 ordered
    refine pairwise_putInOrder le trans total (fun b mem => ?_) (ih tail)
    exact first b ((sorted_perm le rest).mem_iff.1 mem)

theorem pairwise_sorted (trans : ∀ a b c, le a b → le b c → le a c)
    (total : ∀ a b, le a b ∨ le b a) (items : List α) :
    (sorted le items).Pairwise fun a b => le a b :=
  (pairwise_sorted_of_pairwise le trans total
    (List.pairwise_of_forall fun _ _ => trivial)).imp And.left

/-- In a list in which no two items tie those that do are the same. -/
theorem eq_of_tie {items : List α} (apart : items.Pairwise fun a b => ¬ (le a b ∧ le b a))
    {a b : α} (first : a ∈ items) (second : b ∈ items) (lower : le a b) (upper : le b a) :
    a = b := by
  induction items with
  | nil => cases first
  | cons head rest ih =>
    obtain ⟨above, tail⟩ := List.pairwise_cons.1 apart
    rcases List.mem_cons.1 first with rfl | behind
    · rcases List.mem_cons.1 second with rfl | behind
      · rfl
      · exact absurd ⟨lower, upper⟩ (above b behind)
    · rcases List.mem_cons.1 second with rfl | alsoBehind
      · exact absurd ⟨upper, lower⟩ (above a behind)
      · exact ih tail behind alsoBehind

/-- A list is sorted into the only order in which its items ascend strictly. -/
theorem sorted_eq_of_perm (trans : ∀ a b c, le a b → le b c → le a c)
    (total : ∀ a b, le a b ∨ le b a) {items ordered : List α} (perm : items.Perm ordered)
    (strict : ordered.Pairwise fun a b => le a b ∧ ¬ le b a) : sorted le items = ordered := by
  have perm := (sorted_perm le items).trans perm
  refine List.Perm.eq_of_pairwise (fun a b first second lower upper => ?_)
    (pairwise_sorted le trans total items) (strict.imp And.left) perm
  exact eq_of_tie le (strict.imp fun both tie => both.2 tie.2) (perm.mem_iff.1 first) second lower
    upper

/-- Items that ascend already stay as they are. -/
theorem sorted_eq_self {items : List α} (ascending : items.Pairwise fun a b => le a b) :
    sorted le items = items := by
  induction items with
  | nil => rfl
  | cons a rest ih =>
    obtain ⟨above, tail⟩ := List.pairwise_cons.1 ascending
    rw [sorted, ih tail]
    cases rest with
    | nil => rfl
    | cons b rest => exact if_pos (above b List.mem_cons_self)

theorem putInOrder_map {β : Type} (f : β → α) (a : β) (items : List β) :
    putInOrder le (f a) (items.map f) =
      (putInOrder (fun a b => le (f a) (f b)) a items).map f := by
  induction items with
  | nil => rfl
  | cons b rest ih =>
    rw [List.map_cons, putInOrder, putInOrder, ih]
    split <;> rfl

/-- To sort by what is told of items is to sort the items by it. -/
theorem sorted_map {β : Type} (f : β → α) (items : List β) :
    sorted le (items.map f) = (sorted (fun a b => le (f a) (f b)) items).map f := by
  induction items with
  | nil => rfl
  | cons a rest ih => rw [List.map_cons, sorted, sorted, ih, putInOrder_map]

end NetDesign
