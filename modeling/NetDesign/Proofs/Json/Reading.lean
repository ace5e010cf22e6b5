import NetDesign.Description.Reader
import NetDesign.Proofs.Json.RoundTrip

set_option autoImplicit false

namespace NetDesign.Json

/-- A number of any size. -/
def natural? : Json → Option Nat
  | number n => some n
  | _ => none

/-- A value that is `null` where it is absent. -/
def nullable? {α : Type} (read : Json → Option α) : Json → Option (Option α)
  | null => some none
  | j => (read j).map some

/-- A map, given as a table. -/
def sortedMap? {α β : Type} [Ord α] [Std.TransOrd α] (readKey : Key → Option α)
    (read : Json → Option β) (j : Json) : Option (SortedMap α β) :=
  (j.table? readKey read).map .ofList

/-- A member name that is a number. -/
def Key.natural? (key : Key) : Option Nat :=
  match readNumber? key.text.toList with
  | some (n, []) => some n
  | _ => none

/-- Everything that is written is a value of known keys, and is read as what it was made from. -/
structure Recovers {α : Type} (toJson : α → Json) (read : Json → Option α) : Prop where
  written : ∀ a, (toJson a).Written
  read_toJson : ∀ a, read (toJson a) = some a

theorem recovers_text : Recovers text text? := ⟨.text, fun _ => rfl⟩

theorem recovers_bool : Recovers bool bool? := ⟨.bool, fun _ => rfl⟩

theorem recovers_number : Recovers number natural? := ⟨.number, fun _ => rfl⟩

theorem recovers_word : Recovers ofWord word? where
  written w := .number w.toNat
  read_toJson w := by
    have small : w.toNat < UInt32.size := w.toNat_lt_size
    simp [ofWord, word?, small]

theorem recovers_address : Recovers ofAddress address? where
  written a := .text a.text
  read_toJson a := by rw [ofAddress, address?, text?, Option.bind_some, Address.ofText?_text]

theorem recovers_net : Recovers ofNet net? where
  written n := .text n.text
  read_toJson n := by rw [ofNet, net?, text?, Option.bind_some, Net.ofText?_text]

theorem Key.natural?_repr (n : Nat) : (Key.ofText n.repr).natural? = some n := by
  have digits := readNumber?_repr n (show ([] : List Char).takeWhile Char.isDigit = [] from rfl)
  rw [List.append_nil] at digits
  simp only [Key.natural?, Key.ofText, digits]

/-- A field is looked up among the values given, one by one. -/
theorem Fields.required_cons {α : Type} (listed : Bool) (given : List (String × Json))
    (name other : String) (j : Json) (read : Json → Option α) :
    Fields.required ⟨listed, (other, j) :: given⟩ name read =
      if name = other then read j else Fields.required ⟨listed, given⟩ name read := by
  by_cases same : name = other
  · simp [Fields.required, same]
  · have differ : (name == other) = false := by simpa using same
    simp [Fields.required, List.lookup_cons, same, differ]

namespace Recovers

variable {α β : Type} {toJson : α → Json} {read : Json → Option α}

theorem spec (recovers : Recovers toJson read) (a : α) :
    (toJson a).Written ∧ read (toJson a) = some a :=
  ⟨recovers.written a, recovers.read_toJson a⟩

/-- What is absent is told from what is there, as nothing that is there is written as `null`. -/
theorem maybe (recovers : Recovers toJson read) (present : ∀ a, toJson a ≠ null) :
    Recovers (Json.maybe toJson) (nullable? read) where
  written
    | none => .null
    | some a => recovers.written a
  read_toJson
    | none => rfl
    | some a => by
      rw [Json.maybe, nullable?.eq_2 _ _ (present a), recovers.read_toJson, Option.map_some]

theorem array (recovers : Recovers toJson read) : Recovers (Json.array toJson) (list? read) where
  written items := by
    refine .list fun item mem => ?_
    obtain ⟨a, -, rfl⟩ := List.mem_map.mp mem
    exact recovers.written a
  read_toJson items := mapM_map_eq_some fun a _ => recovers.read_toJson a

theorem written_record {members : List (String × Json)} (values : ∀ m ∈ members, m.2.Written) :
    (Json.record members).Written := by
  refine .object (fun m mem => ?_) fun m mem => ?_
  · obtain ⟨named, -, rfl⟩ := List.mem_map.mp mem
    rfl
  · obtain ⟨named, inside, rfl⟩ := List.mem_map.mp mem
    exact values named inside

theorem table [Ord α] [Std.LawfulEqOrd α] [Std.TransOrd α] {name : α → String}
    {readKey : Key → Option α} {toJson : β → Json} {read : Json → Option β}
    (keys : ∀ a, readKey (.ofText (name a)) = some a) (recovers : Recovers toJson read) :
    Recovers (Json.table name toJson) (sortedMap? readKey read) where
  written m := by
    refine written_record fun member mem => ?_
    obtain ⟨entry, -, rfl⟩ := List.mem_map.mp mem
    exact recovers.written entry.2
  read_toJson m := by
    simp only [Json.table, Json.record, sortedMap?, table?, List.map_map]
    rw [mapM_map_eq_some, Option.map_some, SortedMap.ofList_toList]
    intro entry _
    simp only [Function.comp_apply, keys, recovers.read_toJson]

theorem fields?_record {members : List (String × Json)} (distinct : (members.map (·.1)).Nodup) :
    (Json.record members).fields? (members.map (·.1)) = some ⟨false, members⟩ := by
  have given : members.map ((fun m : Key × Json => (m.1.text, m.2)) ∘
      fun m => (Key.ofText m.1, m.2)) = members := List.map_id _
  simp only [Json.record, fields?, List.map_map]
  refine (if_pos ⟨distinct, fun _ mem => mem⟩).trans ?_
  exact congrArg (fun entries => some (Fields.mk false entries)) given

/-- A record is recovered if its fields have different names, and what is made of the values given
for them is the record again. -/
theorem record {members : α → List (String × Json)} {names : List String}
    {build : Fields → Option α} (named : ∀ a, (members a).map (·.1) = names)
    (distinct : names.Nodup)
    (built : ∀ a, (∀ m ∈ members a, m.2.Written) ∧ build ⟨false, members a⟩ = some a) :
    Recovers (fun a => Json.record (members a)) fun j => (j.fields? names).bind build where
  written a := written_record (built a).1
  read_toJson a := by
    have fields := fields?_record (show ((members a).map (·.1)).Nodup by rwa [named a])
    rw [← named a, fields, Option.bind_some, (built a).2]

end Recovers

end NetDesign.Json
