import NetDesign.Interface.Supply
import NetDesign.Proofs.Address.Text

set_option autoImplicit false

namespace NetDesign

/-- The slot and the port are read off a name, as no number holds a slash. -/
theorem slotPort_injective {stem : String} {a b c d : Nat}
    (same : stem ++ a.repr ++ "/" ++ b.repr = stem ++ c.repr ++ "/" ++ d.repr) :
    a = c ∧ b = d := by
  have plain : ∀ n : Nat, '/' ∉ n.repr.toList := fun n mem =>
    absurd (InterfaceId.isDigit_of_mem_repr mem) (by decide)
  have slash : "/".toList = ['/'] := rfl
  rw [← String.toList_inj] at same
  simp only [String.toList_append, List.append_assoc, slash, List.singleton_append] at same
  rw [← List.append_assoc, ← List.append_assoc, append_separator_inj (plain b) (plain d),
    List.append_cancel_left_eq, String.toList_inj, String.toList_inj] at same
  exact ⟨repr_injective same.1, repr_injective same.2⟩

namespace Scheme

theorem name_injective (scheme : Scheme) {m n : Nat} (same : scheme.name m = scheme.name n) :
    m = n := by
  cases scheme with
  | junosphere | netkit | dynagen => exact repr_injective ((String.append_right_inj _).mp same)
  | ios | ios2 =>
    obtain ⟨slot, port⟩ := slotPort_injective same
    simp only [ports] at slot port
    omega

/-- The name of an interface of an emulated machine ends in its number. -/
theorem numericSuffix_of_netkit {id : InterfaceId} (named : id.name = netkit.name id.position) :
    id.numericSuffix = id.position.repr := by
  obtain ⟨position, name⟩ := id
  obtain rfl : name = "eth" ++ position.repr := named
  exact InterfaceId.numericSuffix_append rfl position position

end Scheme

end NetDesign
