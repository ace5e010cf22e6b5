import Mathlib.Data.List.DropRight
import NetDesign.Proofs.Interface.Draws
import NetDesign.Proofs.Interface.Id

set_option autoImplicit false

namespace NetDesign

/-- The characters with the bytes at which they begin, the first one of them at the given byte. -/
def charOffsets (start : Nat) : List Char → List (Nat × Char)
  | [] => []
  | c :: rest => (start, c) :: charOffsets (start + c.utf8Size) rest

/-- The text from a byte on. There is none if the byte is inside a character or behind the text. -/
def textFrom? (text : String) (byte : Nat) : Option String :=
  if boundary : String.Pos.Raw.IsValid text ⟨byte⟩ then
    some (text.sliceFrom ⟨⟨byte⟩, boundary⟩).copy
  else none

/-- A byte divides the text into a stem and all the digits, from `0` to `9`, that the text ends
in. -/
structure DividesAt (text : String) (byte : Nat) (stem digits : String) : Prop where
  /-- A character begins at the byte, or the text ends there. -/
  boundary : String.Pos.Raw.IsValid text ⟨byte⟩
  before : stem.utf8ByteSize = byte
  whole : stem ++ digits = text
  decimal : ∀ c ∈ digits.toList, c.isDigit
  closed : stem = "" ∨ ∃ (front : String) (c : Char), stem = front.push c ∧ ¬ c.isDigit

namespace InterfaceId

/-- The last digit that a walk from the end of the name passes begins at this byte. Without digits
there it is the end of the name. -/
def suffixStart (id : InterfaceId) : Nat :=
  let passed := (charOffsets 0 id.name.toList).reverse.takeWhile fun entry => entry.2.isDigit
  (passed.getLast?.map (·.1)).getD id.name.utf8ByteSize

/-- The number at the end of the name, cut off at the byte that the walk finds. -/
def cutSuffix? (id : InterfaceId) : Option String :=
  textFrom? id.name id.suffixStart

end InterfaceId

/-- There are requests to a fresh supply of the scheme upon which it gives out the identifier. -/
def Scheme.GivesOut (scheme : Scheme) (id : InterfaceId) : Prop :=
  ∃ requests, .given id ∈ ((Supply.ofScheme scheme).answers requests).1

/-- The bytes that the characters take. -/
def byteSize (cs : List Char) : Nat := (String.ofList cs).utf8ByteSize

theorem byteSize_cons (c : Char) (rest : List Char) :
    byteSize (c :: rest) = c.utf8Size + byteSize rest := by
  have first : String.ofList (c :: rest) = String.singleton c ++ String.ofList rest := by
    rw [String.singleton_eq_ofList, ← String.ofList_append]
    rfl
  rw [byteSize, first, String.utf8ByteSize_append, String.utf8ByteSize_singleton, byteSize]

theorem charOffsets_concat (start : Nat) (front : List Char) (c : Char) :
    charOffsets start (front ++ [c]) =
      charOffsets start front ++ [(start + byteSize front, c)] := by
  induction front generalizing start with
  | nil => rfl
  | cons first rest ih =>
    rw [List.cons_append, charOffsets, ih, charOffsets, byteSize_cons, Nat.add_assoc]
    rfl

/-- A cut behind a stem leaves what follows the stem. -/
theorem textFrom?_append (stem rest : String) :
    textFrom? (stem ++ rest) stem.utf8ByteSize = some rest := by
  have boundary : String.Pos.Raw.IsValid (stem ++ rest) ⟨stem.utf8ByteSize⟩ :=
    String.Pos.Raw.isValid_iff_exists_append.mpr ⟨stem, rest, rfl, rfl⟩
  have splits : String.Pos.Splits (s := stem ++ rest) ⟨_, boundary⟩ stem rest := ⟨rfl, rfl⟩
  rw [textFrom?, dif_pos boundary, splits.copy_sliceFrom_eq]

theorem DividesAt.textFrom? {text stem digits : String} {byte : Nat}
    (divides : DividesAt text byte stem digits) : NetDesign.textFrom? text byte = some digits := by
  rw [← divides.whole, ← divides.before]
  exact textFrom?_append stem digits

/-- The walk stops behind the characters that are left when all digits at the end are dropped. -/
theorem getLast?_passed (start : Nat) (cs : List Char) :
    let passed := (charOffsets start cs).reverse.takeWhile fun entry => entry.2.isDigit
    (passed.getLast?.map (·.1)).getD (start + byteSize cs) =
      start + byteSize (cs.rdropWhile Char.isDigit) := by
  -- the walk takes its first step at the last character, so the induction is from this end
  induction cs using List.reverseRecOn with
  | nil => rfl
  | append_singleton front c ih =>
    simp only [charOffsets_concat, List.reverse_append, List.reverse_singleton,
      List.singleton_append]
    cases digit : c.isDigit with
    | false =>
      rw [List.rdropWhile_concat_neg _ _ _ (by simp [digit]),
        List.takeWhile_cons_of_neg (by simp [digit])]
      rfl
    | true =>
      rw [List.rdropWhile_concat_pos _ _ _ digit, List.takeWhile_cons_of_pos (by simp [digit]),
        List.getLast?_cons, Option.map_some, Option.getD_some, ← ih]
      cases ((charOffsets start front).reverse.takeWhile fun entry => entry.2.isDigit).getLast? with
      | none => rfl
      | some entry => rfl

namespace InterfaceId

/-- What is in front of the digits at the end of the name. -/
def stem (id : InterfaceId) : String :=
  .ofList (id.name.toList.rdropWhile Char.isDigit)

theorem suffixStart_eq (id : InterfaceId) : id.suffixStart = id.stem.utf8ByteSize := by
  have walk := getLast?_passed 0 id.name.toList
  simp only [Nat.zero_add] at walk
  rw [byteSize, String.ofList_toList] at walk
  exact walk

theorem stem_append_numericSuffix (id : InterfaceId) : id.stem ++ id.numericSuffix = id.name := by
  have whole : id.name.toList.rdropWhile Char.isDigit ++ id.name.toList.rtakeWhile Char.isDigit =
      id.name.toList := List.rdropWhile_append_rtakeWhile
  calc id.stem ++ id.numericSuffix
      = .ofList (id.name.toList.rdropWhile Char.isDigit ++
          id.name.toList.rtakeWhile Char.isDigit) := String.ofList_append.symm
    _ = .ofList id.name.toList := by rw [whole]
    _ = id.name := String.ofList_toList

theorem isDigit_of_mem_numericSuffix {id : InterfaceId} {c : Char}
    (mem : c ∈ id.numericSuffix.toList) : c.isDigit := by
  rw [numericSuffix, String.toList_ofList] at mem
  exact List.mem_rtakeWhile_imp mem

theorem stem_closed (id : InterfaceId) :
    id.stem = "" ∨ ∃ (front : String) (c : Char), id.stem = front.push c ∧ ¬ c.isDigit := by
  by_cases empty : id.name.toList.rdropWhile Char.isDigit = []
  · exact .inl (by rw [stem, empty, String.ofList_nil])
  · have last := List.dropLast_concat_getLast empty
    refine .inr ⟨.ofList (id.name.toList.rdropWhile Char.isDigit).dropLast, _, ?_,
      List.rdropWhile_last_not _ _ empty⟩
    rw [← String.append_singleton, String.singleton_eq_ofList, ← String.ofList_append, last, stem]

/-- Every name falls apart at the byte that the walk finds. -/
theorem dividesAt_suffixStart (id : InterfaceId) :
    DividesAt id.name id.suffixStart id.stem id.numericSuffix where
  boundary := by
    refine String.Pos.Raw.isValid_iff_exists_append.mpr
      ⟨id.stem, id.numericSuffix, id.stem_append_numericSuffix.symm, ?_⟩
    rw [suffixStart_eq]
    rfl
  before := id.suffixStart_eq.symm
  whole := id.stem_append_numericSuffix
  decimal _ mem := isDigit_of_mem_numericSuffix mem
  closed := id.stem_closed

end InterfaceId

namespace Scheme

theorem GivesOut.name {scheme : Scheme} {id : InterfaceId} (given : scheme.GivesOut id) :
    id.name = scheme.name id.position := by
  obtain ⟨requests, mem⟩ := given
  rw [Supply.answers_eq] at mem
  rcases List.mem_append.mp mem with drawn | refused
  · obtain ⟨other, drawn, same⟩ := List.mem_map.mp drawn
    cases same
    exact ((Supply.ofScheme scheme).drawMany_enumerates requests.length).named id drawn
  · obtain ⟨request, -, same⟩ := List.mem_map.mp refused
    cases request <;> cases same

theorem GivesOut.eq_of_position {scheme : Scheme} {a b : InterfaceId} (first : scheme.GivesOut a)
    (second : scheme.GivesOut b) (same : a.position = b.position) : a = b := by
  have names : a.name = b.name := by rw [first.name, second.name, same]
  cases a
  cases b
  simp_all

end Scheme

namespace InterfaceId

/-- The number at the end of a name is what the cut at a byte leaves, which succeeds for every name:
the byte divides the name into a stem and all the digits at its end. If the name was given to an
interface of an emulated machine, these are the digits of its number, and no other interface that
was given a name ends in them. -/
theorem numericSuffix_divides (id : InterfaceId) :
    id.cutSuffix? = some id.numericSuffix ∧
    (∃ stem, DividesAt id.name id.suffixStart stem id.numericSuffix) ∧
    (Scheme.netkit.GivesOut id → id.numericSuffix = id.position.repr ∧
      ∀ other, Scheme.netkit.GivesOut other → other.numericSuffix = id.numericSuffix →
        other = id) := by
  have divides := id.dividesAt_suffixStart
  refine ⟨divides.textFrom?, ⟨id.stem, divides⟩, fun given => ?_⟩
  have number := Scheme.numericSuffix_of_netkit given.name
  refine ⟨number, fun other givenToo same => ?_⟩
  rw [number, Scheme.numericSuffix_of_netkit givenToo.name] at same
  exact givenToo.eq_of_position given (repr_injective same)

/-- The digit three of another script takes three bytes and is not one of the digits that count. -/
theorem foreignDigit_divides :
    let foreign : InterfaceId := ⟨0, "eth३10"⟩
    let tenth : InterfaceId := ⟨10, "eth10"⟩
    foreign.cutSuffix? = some "10" ∧ foreign.suffixStart = 6 ∧
      (∃ stem, DividesAt "eth३10" 6 stem "10") ∧
      Scheme.netkit.GivesOut tenth ∧ tenth.numericSuffix = "10" ∧
      Scheme.netkit.GivesOut ⟨1, "eth1"⟩ ∧
      (⟨1, "eth1"⟩ : InterfaceId).numericSuffix ≠ tenth.numericSuffix := by
  intro foreign tenth
  have given : Scheme.netkit.GivesOut tenth := ⟨List.replicate 11 .next, by decide⟩
  have givenToo : Scheme.netkit.GivesOut ⟨1, "eth1"⟩ := ⟨[.draw, .next], by decide⟩
  have suffix : foreign.numericSuffix = "10" := by decide
  have start : foreign.suffixStart = 6 := by decide
  obtain ⟨cut, divides, -⟩ := numericSuffix_divides foreign
  obtain ⟨-, -, numbered⟩ := numericSuffix_divides tenth
  obtain ⟨number, unique⟩ := numbered given
  rw [suffix] at cut divides
  rw [start] at divides
  refine ⟨cut, start, divides, given, number.trans (by decide), givenToo, fun same => ?_⟩
  exact absurd (unique ⟨1, "eth1"⟩ givenToo same) (by decide)

example : (⟨0, ""⟩ : InterfaceId).suffixStart = 0 ∧ (⟨0, "2021"⟩ : InterfaceId).suffixStart = 0 ∧
    (⟨0, "lo"⟩ : InterfaceId).suffixStart = 2 := by
  decide

end InterfaceId

end NetDesign
