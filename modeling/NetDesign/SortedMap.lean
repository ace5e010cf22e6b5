set_option autoImplicit false

namespace NetDesign

/-- A finite map, held as its entries in strictly ascending key order. -/
structure SortedMap (α β : Type) [Ord α] where
  toList : List (α × β)
  ascending : toList.Pairwise fun a b => compare a.1 b.1 = .lt

namespace SortedMap

variable {α β : Type}

section Entries

variable [Ord α]

def find (key : α) : List (α × β) → Option β
  | [] => none
  | e :: rest => if compare key e.1 = .eq then some e.2 else find key rest

/-- Puts an entry in its place, replacing the entry of the same key. -/
def place (key : α) (value : β) : List (α × β) → List (α × β)
  | [] => [(key, value)]
  | e :: rest =>
    match compare key e.1 with
    | .lt => (key, value) :: e :: rest
    | .eq => (key, value) :: rest
    | .gt => e :: place key value rest

theorem mem_place {key : α} {value : β} {e : α × β} {entries : List (α × β)}
    (mem : e ∈ place key value entries) : e = (key, value) ∨ e ∈ entries := by
  induction entries with
  | nil => simpa [place] using mem
  | cons head rest ih =>
    unfold place at mem
    split at mem
    · simpa using mem
    · exact (List.mem_cons.1 mem).imp id (List.mem_cons_of_mem _)
    · rcases List.mem_cons.1 mem with rfl | mem
      · exact .inr List.mem_cons_self
      · exact (ih mem).imp id (List.mem_cons_of_mem _)

end Entries

section Operations

variable [Ord α]

def empty : SortedMap α β := ⟨[], .nil⟩

instance : EmptyCollection (SortedMap α β) := ⟨empty⟩
instance : Inhabited (SortedMap α β) := ⟨empty⟩

def get? (m : SortedMap α β) (key : α) : Option β := find key m.toList

@[simp] theorem get?_empty (key : α) : (empty : SortedMap α β).get? key = none := rfl

def contains (m : SortedMap α β) (key : α) : Bool := (m.get? key).isSome

def keys (m : SortedMap α β) : List α := m.toList.map (·.1)

/-- The values in the order of their keys. -/
def values (m : SortedMap α β) : List β := m.toList.map (·.2)

def size (m : SortedMap α β) : Nat := m.toList.length

instance [DecidableEq α] [DecidableEq β] : DecidableEq (SortedMap α β) := fun m n =>
  if h : m.toList = n.toList then .isTrue (by cases m; cases n; simp_all)
  else .isFalse (by rintro rfl; exact h rfl)

instance [Repr α] [Repr β] : Repr (SortedMap α β) := ⟨fun m n => reprPrec m.toList n⟩

variable [Std.TransOrd α]

theorem ascending_place (key : α) (value : β) {entries : List (α × β)}
    (ascending : entries.Pairwise fun a b => compare a.1 b.1 = .lt) :
    (place key value entries).Pairwise fun a b => compare a.1 b.1 = .lt := by
  induction entries with
  | nil => simp [place]
  | cons head rest ih =>
    have ⟨above, tail⟩ := List.pairwise_cons.1 ascending
    unfold place
    split
    case h_1 lower =>
      refine List.pairwise_cons.2 ⟨fun e mem => ?_, ascending⟩
      rcases List.mem_cons.1 mem with rfl | mem
      · exact lower
      · exact Std.TransCmp.lt_trans lower (above e mem)
    case h_2 equal =>
      exact List.pairwise_cons.2
        ⟨fun e mem => Std.TransCmp.lt_of_eq_of_lt equal (above e mem), tail⟩
    case h_3 higher =>
      refine List.pairwise_cons.2 ⟨fun e mem => ?_, ih tail⟩
      rcases mem_place mem with rfl | mem
      · exact Std.OrientedCmp.gt_iff_lt.1 higher
      · exact above e mem

def insert (m : SortedMap α β) (key : α) (value : β) : SortedMap α β :=
  ⟨place key value m.toList, ascending_place key value m.ascending⟩

/-- Inserts entries in order, so that the last value given for a key stays. -/
def insertAll (m : SortedMap α β) (entries : List (α × β)) : SortedMap α β :=
  entries.foldl (fun m e => m.insert e.1 e.2) m

/-- The map of a list of entries; the last value given for a key stays. -/
def ofList (entries : List (α × β)) : SortedMap α β := empty.insertAll entries

end Operations

section Lookup

variable [Ord α] [Std.LawfulEqOrd α]

theorem find_place_self (key : α) (value : β) (entries : List (α × β)) :
    find key (place key value entries) = some value := by
  induction entries with
  | nil => simp [place, find]
  | cons head rest ih =>
    unfold place
    split
    · simp [find]
    · simp [find]
    case h_3 higher => simp [find, higher, ih]

theorem find_place_of_ne {key other : α} (value : β) (differ : other ≠ key)
    (entries : List (α × β)) : find other (place key value entries) = find other entries := by
  have skip : compare other key ≠ .eq := fun equal =>
    differ (Std.LawfulEqCmp.eq_of_compare equal)
  induction entries with
  | nil => simp [place, find, skip]
  | cons head rest ih =>
    unfold place
    split
    · simp [find, skip]
    case h_2 equal =>
      have same := Std.LawfulEqCmp.eq_of_compare equal
      simp [find, skip, ← same]
    · simp [find, ih]

theorem mem_of_find_eq_some {key : α} {value : β} {entries : List (α × β)}
    (found : find key entries = some value) : (key, value) ∈ entries := by
  induction entries with
  | nil => simp [find] at found
  | cons head rest ih =>
    unfold find at found
    split at found
    case isTrue equal =>
      have same := Std.LawfulEqCmp.eq_of_compare equal
      cases found
      simp [same]
    · exact List.mem_cons_of_mem _ (ih found)

theorem toList_nodup (m : SortedMap α β) : m.toList.Nodup :=
  m.ascending.imp fun lower equal => by
    subst equal
    simp at lower

theorem keys_nodup (m : SortedMap α β) : m.keys.Nodup := by
  rw [keys, List.Nodup, List.pairwise_map]
  exact m.ascending.imp fun lower equal => by
    rw [equal] at lower
    simp at lower

variable [Std.TransOrd α]

theorem get?_insert_self (m : SortedMap α β) (key : α) (value : β) :
    (m.insert key value).get? key = some value := find_place_self key value m.toList

theorem get?_insert_of_ne (m : SortedMap α β) {key other : α} (value : β) (differ : other ≠ key) :
    (m.insert key value).get? other = m.get? other := find_place_of_ne value differ m.toList

theorem get?_insert [DecidableEq α] (m : SortedMap α β) (key other : α) (value : β) :
    (m.insert key value).get? other = if other = key then some value else m.get? other := by
  split
  case isTrue same => rw [same, get?_insert_self]
  case isFalse differ => exact get?_insert_of_ne m value differ

theorem contains_insert (m : SortedMap α β) (key other : α) (value : β) :
    (m.insert key value).contains other ↔ other = key ∨ m.contains other := by
  unfold contains
  by_cases same : other = key
  · simp [same, get?_insert_self]
  · simp [same, get?_insert_of_ne m value same]

theorem contains_insertAll (m : SortedMap α β) (entries : List (α × β)) (key : α) :
    (m.insertAll entries).contains key ↔ key ∈ entries.map (·.1) ∨ m.contains key := by
  induction entries generalizing m with
  | nil => simp [insertAll]
  | cons e rest ih =>
    rw [insertAll, List.foldl_cons, ← insertAll, ih, contains_insert, List.map_cons, List.mem_cons,
      or_left_comm, or_assoc]

theorem find_eq_some_of_mem {key : α} {value : β} {entries : List (α × β)}
    (ascending : entries.Pairwise fun a b => compare a.1 b.1 = .lt)
    (mem : (key, value) ∈ entries) : find key entries = some value := by
  induction entries with
  | nil => simp at mem
  | cons head rest ih =>
    have ⟨above, tail⟩ := List.pairwise_cons.1 ascending
    rcases List.mem_cons.1 mem with rfl | mem
    · simp [find]
    · have higher := Std.OrientedCmp.gt_iff_lt.2 (above _ mem)
      simp [find, higher, ih tail mem]

theorem get?_eq_some_iff {m : SortedMap α β} {key : α} {value : β} :
    m.get? key = some value ↔ (key, value) ∈ m.toList :=
  ⟨mem_of_find_eq_some, find_eq_some_of_mem m.ascending⟩

theorem mem_keys {m : SortedMap α β} {key : α} : key ∈ m.keys ↔ m.contains key := by
  rw [keys, List.mem_map, contains, Option.isSome_iff_exists]
  constructor
  · rintro ⟨⟨_, value⟩, mem, rfl⟩
    exact ⟨value, get?_eq_some_iff.mpr mem⟩
  · rintro ⟨value, found⟩
    exact ⟨(key, value), get?_eq_some_iff.mp found, rfl⟩

/-- Maps with the same lookups are equal. -/
theorem ext_get? {m n : SortedMap α β} (same : ∀ key, m.get? key = n.get? key) : m = n := by
  have entries : m.toList = n.toList := by
    refine List.Perm.eq_of_pairwise (fun a b _ _ lower upper => ?_) m.ascending n.ascending ?_
    · have := Std.TransCmp.lt_trans lower upper
      simp at this
    · refine (List.perm_ext_iff_of_nodup m.toList_nodup n.toList_nodup).2 fun e => ?_
      obtain ⟨key, value⟩ := e
      rw [← get?_eq_some_iff, ← get?_eq_some_iff, same]
  cases m
  cases n
  simp_all

/-- To insert what a map holds already changes nothing. -/
theorem insert_of_get? {m : SortedMap α β} {key : α} {value : β}
    (held : m.get? key = some value) : m.insert key value = m := by
  apply ext_get?
  intro other
  by_cases same : other = key
  · rw [same, get?_insert_self, held]
  · rw [get?_insert_of_ne m value same]

theorem get?_insertAll {entries : List (α × β)} (distinct : (entries.map (·.1)).Nodup)
    (m : SortedMap α β) {key : α} {value : β} :
    (m.insertAll entries).get? key = some value ↔
      (key, value) ∈ entries ∨ key ∉ entries.map (·.1) ∧ m.get? key = some value := by
  induction entries generalizing m with
  | nil => simp [insertAll]
  | cons e rest ih =>
    have ⟨absent, distinctRest⟩ := List.nodup_cons.mp distinct
    rw [insertAll, List.foldl_cons, ← insertAll, ih distinctRest]
    by_cases same : key = e.1
    · subst same
      have unlisted : ∀ v, (e.1, v) ∉ rest := fun v mem =>
        absent (List.mem_map.mpr ⟨(e.1, v), mem, rfl⟩)
      have head : (e.1, value) = e ↔ e.2 = value := by cases e; simp [eq_comm]
      simp only [unlisted, false_or, get?_insert_self, List.mem_cons, or_false, List.map_cons,
        not_true_eq_false, false_and, absent, not_false_eq_true, true_and, head,
        Option.some.injEq]
    · have other : (key, value) ≠ e := fun equal => same (congrArg Prod.fst equal)
      simp only [get?_insert_of_ne m e.2 same, List.mem_cons, other, false_or, List.map_cons, same]

/-- A map of entries with different keys holds just these entries. -/
theorem get?_ofList {entries : List (α × β)} (distinct : (entries.map (·.1)).Nodup) {key : α}
    {value : β} : (ofList entries).get? key = some value ↔ (key, value) ∈ entries := by
  rw [ofList, get?_insertAll distinct]
  simp

theorem toList_ofList_perm {entries : List (α × β)} (distinct : (entries.map (·.1)).Nodup) :
    (ofList entries).toList.Perm entries := by
  have nodup : entries.Nodup := (List.pairwise_map.mp distinct).imp fun differ equal =>
    differ (congrArg Prod.fst equal)
  refine (List.perm_ext_iff_of_nodup (toList_nodup _) nodup).mpr fun e => ?_
  obtain ⟨key, value⟩ := e
  rw [← get?_eq_some_iff, get?_ofList distinct]

theorem ofList_toList (m : SortedMap α β) : ofList m.toList = m := by
  apply ext_get?
  intro key
  apply Option.ext
  intro value
  rw [get?_ofList m.keys_nodup, get?_eq_some_iff]

end Lookup

end SortedMap

end NetDesign
