import NetDesign.Interface.Id

set_option autoImplicit false

namespace NetDesign.InterfaceId

theorem precedes_iff {a b : InterfaceId} :
    a.precedes b ↔ a.position < b.position ∨
      a.position = b.position ∧ (a.name < b.name ∨ a.name = b.name) := by
  have split : compare a b = (compare a.position b.position).then (compare a.name b.name) := rfl
  have names : a.name < b.name ↔ compare a.name b.name = .lt := compareOfLessAndEq_eq_lt.symm
  have same : a.name = b.name ↔ compare a.name b.name = .eq := Std.compare_eq_iff_eq.symm
  have positions : a.position < b.position ↔ compare a.position b.position = .lt :=
    Std.compare_eq_lt.symm
  have level : a.position = b.position ↔ compare a.position b.position = .eq :=
    Std.compare_eq_iff_eq.symm
  rw [precedes, split, names, same, positions, level]
  cases compare a.position b.position <;> cases compare a.name b.name <;> decide

theorem precedes_of_position_lt {a b : InterfaceId} (lower : a.position < b.position) :
    a.precedes b :=
  precedes_iff.mpr (.inl lower)

theorem precedes_trans {a b c : InterfaceId} (first : a.precedes b) (second : b.precedes c) :
    a.precedes c :=
  Std.TransCmp.isLE_trans first second

theorem isDigit_of_mem_repr {n : Nat} {c : Char} (mem : c ∈ n.repr.toList) : c.isDigit := by
  rw [Nat.toList_repr] at mem
  exact Nat.isDigit_of_mem_toDigits (by omega) (by omega) mem

/-- A number behind a stem that does not end in a digit is read back as it was written. -/
theorem numericSuffix_append {stem : String}
    (closed : stem.toList.reverse.takeWhile Char.isDigit = []) (position n : Nat) :
    (⟨position, stem ++ n.repr⟩ : InterfaceId).numericSuffix = n.repr := by
  have digits : ∀ c ∈ n.repr.toList.reverse, c.isDigit := fun c mem =>
    isDigit_of_mem_repr (List.mem_reverse.mp mem)
  rw [numericSuffix, String.toList_append, List.reverse_append,
    List.takeWhile_append_of_pos digits, closed, List.append_nil, List.reverse_reverse,
    String.ofList_toList]

end NetDesign.InterfaceId
