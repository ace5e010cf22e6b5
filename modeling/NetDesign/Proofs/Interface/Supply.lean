import NetDesign.Interface.Supply
import Mathlib.Data.List.Perm.Subperm

set_option autoImplicit false

namespace NetDesign

/-- What is exhausted when a number of things are to be named. -/
def Scheme.overflow? (scheme : Scheme) (n : Nat) : Option Exhausted :=
  scheme.capacity.bind fun capacity => if n ≤ capacity then none else some ⟨scheme, capacity⟩

theorem Scheme.reserved_of_limited {scheme : Scheme} {capacity : Nat}
    (limited : scheme.capacity = some capacity) : scheme.reserved = [] := by
  cases scheme <;> first | rfl | cases limited

namespace Supply

variable {α : Type}

theorem draw_of_unlimited {supply : Supply} (unlimited : supply.scheme.capacity = none) :
    ∃ id n, supply.draw = .ok (id, ⟨supply.scheme, n⟩) :=
  ⟨_, _, by rw [draw, unlimited]; rfl⟩

theorem assign_of_unlimited (supply : Supply) (unlimited : supply.scheme.capacity = none)
    (items : List α) : ∃ n, (supply.assign items).2 = .ok ⟨supply.scheme, n⟩ := by
  induction items generalizing supply with
  | nil => exact ⟨supply.next, rfl⟩
  | cons item rest ih =>
    obtain ⟨id, n, drawn⟩ := draw_of_unlimited unlimited
    obtain ⟨last, named⟩ := ih ⟨supply.scheme, n⟩ unlimited
    exact ⟨last, by rw [assign, drawn]; exact named⟩

theorem firstUnlisted_nil (n : Nat) : firstUnlisted [] n = n := by
  simp [firstUnlisted, List.range'_succ]

theorem draw_of_plain {scheme : Scheme} (unlimited : scheme.capacity = none)
    (free : scheme.reserved = []) (n : Nat) : draw ⟨scheme, n⟩ = .ok (issue scheme n) := by
  simp only [draw, free, firstUnlisted_nil, unlimited]

theorem draw_of_limited {scheme : Scheme} {capacity : Nat}
    (limited : scheme.capacity = some capacity) (n : Nat) :
    draw ⟨scheme, n⟩ =
      if n < capacity then .ok (issue scheme n) else .error ⟨scheme, capacity⟩ := by
  simp only [draw, Scheme.reserved_of_limited limited, firstUnlisted_nil, limited]

theorem assign_of_limited {scheme : Scheme} {capacity : Nat}
    (limited : scheme.capacity = some capacity) {n : Nat} (inside : n ≤ capacity)
    (items : List α) :
    (assign ⟨scheme, n⟩ items).2 =
      if n + items.length ≤ capacity then .ok ⟨scheme, n + items.length⟩
      else .error ⟨scheme, capacity⟩ := by
  induction items generalizing n with
  | nil => simp [assign, inside]
  | cons item rest ih =>
    rw [assign, draw_of_limited limited]
    by_cases room : n < capacity
    · have longer : n + (item :: rest).length = n + 1 + rest.length := by
        rw [List.length_cons]
        omega
      rw [if_pos room, longer]
      exact ih room
    · have full : ¬ n + (item :: rest).length ≤ capacity := by
        rw [List.length_cons]
        omega
      rw [if_neg room, if_neg full]

/-- A fresh supply runs out exactly if its scheme has fewer names than there are things to name. -/
theorem assign_result (scheme : Scheme) (items : List α) :
    (∃ e, scheme.overflow? items.length = some e ∧ ((ofScheme scheme).assign items).2 = .error e) ∨
    scheme.overflow? items.length = none ∧
      ∃ n, ((ofScheme scheme).assign items).2 = .ok ⟨scheme, n⟩ := by
  cases limit : scheme.capacity with
  | none =>
    refine .inr ⟨by rw [Scheme.overflow?, limit]; rfl, ?_⟩
    exact assign_of_unlimited (ofScheme scheme) limit items
  | some capacity =>
    have named := assign_of_limited limit (Nat.zero_le capacity) items
    rw [Nat.zero_add] at named
    by_cases room : items.length ≤ capacity
    · rw [if_pos room] at named
      refine .inr ⟨?_, _, named⟩
      rw [Scheme.overflow?, limit, Option.bind_some, if_pos room]
    · rw [if_neg room] at named
      refine .inl ⟨⟨scheme, capacity⟩, ?_, named⟩
      rw [Scheme.overflow?, limit, Option.bind_some, if_neg room]

/-- A naming that comes to its end has named everything. -/
theorem map_fst_assign {supply rest : Supply} {items : List α}
    (ended : (supply.assign items).2 = .ok rest) : (supply.assign items).1.map (·.1) = items := by
  induction items generalizing supply with
  | nil => rfl
  | cons item others ih =>
    unfold assign at ended ⊢
    split at ended
    · cases ended
    case h_2 id next drawn =>
      simp only [List.map_cons]
      rw [ih ended]

theorem map_fst_assign_sublist (supply : Supply) (items : List α) :
    ((supply.assign items).1.map (·.1)).Sublist items := by
  induction items generalizing supply with
  | nil => exact .slnil
  | cons item others ih =>
    unfold assign
    split
    · exact List.nil_sublist _
    case h_2 id rest drawn => exact (ih rest).cons_cons item

/-- Only what is to be named gets a name. -/
theorem fst_mem_of_mem_assign {supply : Supply} {items : List α} {e : α × InterfaceId}
    (given : e ∈ (supply.assign items).1) : e.1 ∈ items :=
  (map_fst_assign_sublist supply items).mem (List.mem_map_of_mem given)

theorem le_firstUnlisted (listed : List Nat) (n : Nat) : n ≤ firstUnlisted listed n := by
  unfold firstUnlisted
  cases found : (List.range' n (listed.length + 1)).find? (· ∉ listed) with
  | none => exact Nat.le_refl n
  | some m => exact (List.mem_range'_1.mp (List.mem_of_find?_eq_some found)).1

/-- A list cannot hold more numbers than it has entries, so one of those looked at is not listed. -/
theorem firstUnlisted_not_mem (listed : List Nat) (n : Nat) : firstUnlisted listed n ∉ listed := by
  unfold firstUnlisted
  cases found : (List.range' n (listed.length + 1)).find? (· ∉ listed) with
  | some m =>
    have passed := List.find?_some found
    exact of_decide_eq_true passed
  | none =>
    have all : List.range' n (listed.length + 1) ⊆ listed := fun m mem => by
      simpa using List.find?_eq_none.mp found m mem
    have count := (List.nodup_range' 1).length_le_of_subset all
    rw [List.length_range'] at count
    omega

/-- The identifier is the name of a number that is still to come and that is not reserved. -/
structure Offers (supply : Supply) (id : InterfaceId) : Prop where
  later : supply.next ≤ id.position
  name : id.name = supply.scheme.name id.position
  free : id.position ∉ supply.scheme.reserved

/-- A draw goes on behind the number that it gives out. -/
theorem of_draw {supply rest : Supply} {id : InterfaceId} (drawn : supply.draw = .ok (id, rest)) :
    supply.Offers id ∧ rest = ⟨supply.scheme, id.position + 1⟩ := by
  have least := le_firstUnlisted supply.scheme.reserved supply.next
  have free := firstUnlisted_not_mem supply.scheme.reserved supply.next
  simp only [draw] at drawn
  split at drawn
  · cases drawn
    exact ⟨⟨least, rfl, free⟩, rfl⟩
  · split at drawn
    · cases drawn
      exact ⟨⟨least, rfl, free⟩, rfl⟩
    · cases drawn

/-- Things are given the names of ascending numbers, in their order. -/
theorem assign_ascending (supply : Supply) (items : List α) :
    (∀ e ∈ (supply.assign items).1, supply.Offers e.2) ∧
    (supply.assign items).1.Pairwise fun a b => a.2.position < b.2.position := by
  induction items generalizing supply with
  | nil => exact ⟨fun _ mem => absurd mem List.not_mem_nil, .nil⟩
  | cons item others ih =>
    unfold assign
    split
    · exact ⟨fun _ mem => absurd mem List.not_mem_nil, .nil⟩
    case h_2 id rest drawn =>
      obtain ⟨offered, rfl⟩ := of_draw drawn
      obtain ⟨later, ascending⟩ := ih ⟨supply.scheme, id.position + 1⟩
      refine ⟨fun e mem => ?_,
        List.pairwise_cons.mpr ⟨fun e mem => (later e mem).later, ascending⟩⟩
      rcases List.mem_cons.mp mem with rfl | mem
      · exact offered
      · obtain ⟨behind, named, free⟩ := later e mem
        exact ⟨Nat.le_trans offered.later (Nat.le_of_succ_le behind), named, free⟩

/-- A scheme without reserved numbers and without a limit counts through the things to name. -/
theorem assign_of_plain {scheme : Scheme} (unlimited : scheme.capacity = none)
    (free : scheme.reserved = []) (n : Nat) (items : List α) :
    (assign ⟨scheme, n⟩ items).2 = .ok ⟨scheme, n + items.length⟩ := by
  induction items generalizing n with
  | nil => rfl
  | cons item rest ih =>
    rw [assign, draw_of_plain unlimited free]
    simp only [issue]
    rw [ih, List.length_cons, Nat.add_right_comm, Nat.add_assoc]

theorem assign_append_of_ok {supply rest : Supply} {items : List α}
    (ended : (supply.assign items).2 = .ok rest) (more : List α) :
    supply.assign (items ++ more) =
      ((supply.assign items).1 ++ (rest.assign more).1, (rest.assign more).2) := by
  induction items generalizing supply with
  | nil =>
    cases ended
    rfl
  | cons item others ih =>
    cases drawn : supply.draw with
    | error e =>
      simp only [assign, drawn] at ended
      cases ended
    | ok given =>
      obtain ⟨id, next⟩ := given
      simp only [assign, drawn] at ended
      simp only [List.cons_append, assign, drawn]
      rw [ih ended]

/-- Once a supply has run out there are no names for what comes later. -/
theorem assign_append_of_error {supply : Supply} {items : List α} {e : Exhausted}
    (ended : (supply.assign items).2 = .error e) (more : List α) :
    supply.assign (items ++ more) = supply.assign items := by
  induction items generalizing supply with
  | nil => cases ended
  | cons item others ih =>
    cases drawn : supply.draw with
    | error e => simp only [List.cons_append, assign, drawn]
    | ok given =>
      obtain ⟨id, next⟩ := given
      simp only [assign, drawn] at ended
      simp only [List.cons_append, assign, drawn]
      rw [ih ended]

/-- The names of the first things are the same whether there are more of them or not. -/
theorem assign_append (supply : Supply) (items more : List α) :
    ∃ others, (supply.assign (items ++ more)).1 = (supply.assign items).1 ++ others ∧
      (others.map (·.1)).Sublist more := by
  cases ended : (supply.assign items).2 with
  | error e =>
    rw [assign_append_of_error ended]
    exact ⟨[], (List.append_nil _).symm, List.nil_sublist _⟩
  | ok rest =>
    rw [assign_append_of_ok ended]
    exact ⟨_, rfl, map_fst_assign_sublist rest more⟩

end Supply

end NetDesign
