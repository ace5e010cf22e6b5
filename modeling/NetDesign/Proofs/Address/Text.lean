import NetDesign.Address.Text
import NetDesign.Proofs.Interface.Id

set_option autoImplicit false

namespace NetDesign

theorem foldl_repr (n : Nat) :
    n.repr.toList.foldl (fun n c => 10 * n + (c.toNat - '0'.toNat)) 0 = n := by
  rw [Nat.toList_repr, ← Nat.ofDigitChars_eq_foldl, Nat.ofDigitChars_ten_toDigits]

theorem repr_injective {m n : Nat} (same : m.repr = n.repr) : m = n := by
  rw [← foldl_repr m, same, foldl_repr]

/-- Lists are the same exactly if they are before and after the last separator. -/
theorem append_separator_inj {α : Type} {separator : α} {first second last other : List α}
    (plain : separator ∉ last) (plainOther : separator ∉ other) :
    first ++ separator :: last = second ++ separator :: other ↔ first = second ∧ last = other := by
  constructor
  · intro same
    rcases List.append_eq_append_iff.mp same with ⟨between, -, rest⟩ | ⟨between, -, rest⟩
    all_goals cases between with
    | nil => simp_all
    | cons head tail =>
      rw [List.cons_append, List.cons.injEq] at rest
      obtain ⟨-, rfl⟩ := rest
      simp at plain plainOther
  · rintro ⟨rfl, rfl⟩
    rfl

/-- A number that is small enough is read back as it was written. -/
theorem number?_repr {width bound n : Nat} (positive : 0 < width)
    (short : n < Nat.pow 10 width) (inside : n < bound) :
    number? width bound n.repr.toList = some n := by
  have digits : n.repr.toList.all Char.isDigit :=
    List.all_eq_true.mpr fun c => InterfaceId.isDigit_of_mem_repr
  have least : 1 ≤ n.repr.toList.length := by
    rw [Nat.toList_repr]
    exact Nat.length_toDigits_pos
  have most : n.repr.toList.length ≤ width := by
    rw [Nat.toList_repr]
    exact (Nat.length_toDigits_le_iff (by omega) positive).mpr short
  rw [number?, if_pos ⟨least, most, digits⟩, foldl_repr]
  exact if_pos inside

theorem mapM_map_eq_some {α β : Type} {write : α → β} {read : β → Option α} {items : List α}
    (back : ∀ item ∈ items, read (write item) = some item) :
    (items.map write).mapM read = some items := by
  induction items with
  | nil => rfl
  | cons item items ih =>
    have rest := ih fun other mem => back other (List.mem_cons_of_mem item mem)
    rw [List.map_cons, List.mapM_cons, back item List.mem_cons_self, rest]
    rfl

/-- A text that is joined from parts falls apart into them if none of them holds the separator. -/
theorem splitOn_joined {separator : Char} {parts : List String} (nonempty : parts ≠ [])
    (plain : ∀ part ∈ parts, separator ∉ part.toList) :
    ((String.singleton separator).intercalate parts).toList.splitOn separator =
      parts.map String.toList := by
  rw [String.toList_intercalate, String.toList_singleton, List.splitOn_intercalate]
  · intro part mem
    obtain ⟨whole, listed, rfl⟩ := List.mem_map.mp mem
    exact plain whole listed
  · rwa [ne_eq, List.map_eq_nil_iff]

/-- Numbers that are separated by dots fall apart at the dots, as no number holds one. -/
theorem splitOn_dotted {numbers : List Nat} (nonempty : numbers ≠ []) :
    (".".intercalate (numbers.map Nat.repr)).toList.splitOn '.' =
      numbers.map fun n => n.repr.toList := by
  have plain : ∀ part ∈ numbers.map Nat.repr, '.' ∉ part.toList := by
    intro part mem separated
    obtain ⟨n, -, rfl⟩ := List.mem_map.mp mem
    exact absurd (InterfaceId.isDigit_of_mem_repr separated) (by decide)
  have parts := splitOn_joined (by rwa [ne_eq, List.map_eq_nil_iff]) plain
  rwa [List.map_map] at parts

/-- Numbers that are separated by dots are read back as they were written. -/
theorem dotted_injective {first second : List Nat} (nonempty : first ≠ [])
    (nonemptyOther : second ≠ [])
    (same : ".".intercalate (first.map Nat.repr) = ".".intercalate (second.map Nat.repr)) :
    first = second := by
  have lists := splitOn_dotted nonempty
  rw [same, splitOn_dotted nonemptyOther] at lists
  exact (List.map_inj_right fun m n equal => repr_injective (String.toList_inj.mp equal)).mp
    lists.symm

namespace Address

theorem octets_injective {a b : Address} (same : a.octets = b.octets) : a = b := by
  simp only [octets, List.cons.injEq] at same
  apply value_injective
  omega

theorem slash_not_mem_text (a : Address) : '/' ∉ a.text.toList := by
  have digit : ∀ n : Nat, '/' ∉ n.repr.toList := fun n mem =>
    absurd (InterfaceId.isDigit_of_mem_repr mem) (by decide)
  simp [text, octets, digit, -Nat.toList_repr]

theorem ofOctets?_octets (a : Address) : ofOctets? a.octets = some a := by
  have value : ((a.value / 16777216 * 256 + a.value / 65536 % 256) * 256 +
      a.value / 256 % 256) * 256 + a.value % 256 = a.value := by omega
  rw [octets, ofOctets?, ofOctets, value, ofNat_value]

/-- The octets of an address are read back as they were written. -/
theorem ofPadded?_text (a : Address) : ofPadded? a.text.toList = some a := by
  have inside : ∀ n ∈ a.octets, n < 256 := by
    have whole := a.value_lt
    unfold addressCount at whole
    simp only [octets, List.forall_mem_cons, List.not_mem_nil, false_implies, implies_true,
      and_true]
    omega
  have numbers : (a.octets.map fun n => n.repr.toList).mapM (number? 3 256) = some a.octets :=
    mapM_map_eq_some fun n mem => by
      have small := inside n mem
      have short : n < Nat.pow 10 3 := Nat.lt_trans small (by decide)
      exact number?_repr (by omega) short small
  rw [ofPadded?, text, splitOn_dotted (by simp [octets]), numbers, Option.bind_some,
    ofOctets?_octets]

theorem ofText?_text (a : Address) : ofText? a.text = some a := by
  simp [ofText?, ofPadded?_text]

end Address

namespace Net

/-- The text of a block in which the slash is written as a dot. -/
def domainName (n : Net) : String := n.text.map fun c => if c = '/' then '.' else c

/-- The four octets and the length. -/
def numbers (n : Net) : List Nat := n.address.octets ++ [n.length]

theorem numbers_injective {m n : Net} (same : m.numbers = n.numbers) : m = n := by
  obtain ⟨octets, lengths⟩ := List.append_inj' same rfl
  have address := Address.octets_injective octets
  have length := List.singleton_inj.mp lengths
  cases m
  cases n
  cases address
  cases length
  rfl

theorem map_repr (n : Nat) :
    n.repr.toList.map (fun c => if c = '/' then '.' else c) = n.repr.toList := by
  refine (List.map_congr_left fun c mem => if_neg ?_).trans (List.map_id _)
  rintro rfl
  exact absurd (InterfaceId.isDigit_of_mem_repr mem) (by decide)

theorem domainName_eq (n : Net) : n.domainName = ".".intercalate (n.numbers.map Nat.repr) := by
  rw [← String.toList_inj, domainName, String.toList_map]
  simp [text, Address.text, numbers, Address.octets, map_repr, -Nat.toList_repr]

/-- Different blocks have different names. -/
theorem domainName_injective {m n : Net} (same : m.domainName = n.domainName) : m = n := by
  rw [domainName_eq, domainName_eq] at same
  exact numbers_injective (dotted_injective (by simp [numbers]) (by simp [numbers]) same)

/-- A block is read back as it was written. -/
theorem ofText?_text (n : Net) : ofText? n.text = some n := by
  have digit : '/' ∉ n.length.repr.toList := fun mem =>
    absurd (InterfaceId.isDigit_of_mem_repr mem) (by decide)
  have joined : n.text.toList =
      ['/'].intercalate [n.address.text.toList, n.length.repr.toList] := by
    simp [text, List.intercalate_cons_cons]
  have parts : n.text.toList.splitOn '/' = [n.address.text.toList, n.length.repr.toList] := by
    rw [joined, List.splitOn_intercalate]
    · simp [n.address.slash_not_mem_text, digit, -Nat.toList_repr]
    · exact List.cons_ne_nil _ _
  have fits := n.length_le
  have short : n.length < Nat.pow 10 2 := Nat.lt_of_le_of_lt fits (by decide)
  have length : number? 2 33 n.length.repr.toList = some n.length :=
    number?_repr (by omega) short (by omega)
  simp only [ofText?, parts, n.address.ofPadded?_text, length, dif_pos fits]

end Net

end NetDesign
