import NetDesign.Proofs.Address.Text
import NetDesign.Proofs.Json.Literal

set_option autoImplicit false

/- A value is written in many lines, and `following` is what stands behind the first entry of a list
or object. The reader drops the blanks, finds every entry and then the closing bracket, and stops
behind it. So a value is determined by its text. -/
namespace NetDesign.Json

/-- A value all of whose keys have the escapes that their texts need, and no others. -/
inductive Written : Json → Prop
  | null : Written null
  | bool (b : Bool) : Written (bool b)
  | number (n : Nat) : Written (number n)
  | text (s : String) : Written (text s)
  | list {items : List Json} (each : ∀ item ∈ items, Written item) : Written (list items)
  | object {members : List (Key × Json)} (keys : ∀ m ∈ members, m.1 = .ofText m.1.text)
      (values : ∀ m ∈ members, Written m.2) : Written (object members)

theorem head_repr {n : Nat} (zero : n.repr.toList.head? = some '0') : n = 0 := by
  rw [Nat.toList_repr] at zero
  induction n using Nat.strongRecOn with
  | ind n ih =>
    by_cases small : n < 10
    · rw [Nat.toDigits_of_lt_base small, List.head?_cons, Option.some.injEq] at zero
      have digits : ∀ d < 10, Nat.digitChar d = '0' → d = 0 := by decide
      exact digits n small zero
    · obtain ⟨c, tens, shorter⟩ :=
        List.exists_cons_of_ne_nil (@Nat.toDigits_ne_nil (n / 10) 10)
      rw [Nat.toDigits_of_base_le (by omega) (by omega), shorter, List.cons_append] at zero
      have none : n / 10 = 0 := ih (n / 10) (by omega) (by rw [shorter]; exact zero)
      omega

/-- A number is read up to the first character that is no digit. -/
theorem readNumber?_repr (n : Nat) {rest : List Char} (stops : rest.takeWhile Char.isDigit = []) :
    readNumber? (n.repr.toList ++ rest) = some (n, rest) := by
  have digits : ∀ c ∈ n.repr.toList, c.isDigit := fun c => InterfaceId.isDigit_of_mem_repr
  have taken : (n.repr.toList ++ rest).takeWhile Char.isDigit = n.repr.toList := by
    rw [List.takeWhile_append_of_pos digits, stops, List.append_nil]
  have dropped : (n.repr.toList ++ rest).dropWhile Char.isDigit = rest := by
    have whole := @List.takeWhile_append_dropWhile _ Char.isDigit rest
    rw [stops, List.nil_append] at whole
    rw [List.dropWhile_append_of_pos digits, whole]
  have nonempty : n.repr.toList ≠ [] := by simp
  have canonical : n.repr.toList.head? = some '0' → n.repr.toList = ['0'] := by
    intro zero
    rw [head_repr zero]
    rfl
  have refused : ¬ (n.repr.toList = [] ∨
      n.repr.toList.head? = some '0' ∧ n.repr.toList ≠ ['0']) := by
    rintro (empty | ⟨zero, longer⟩)
    · exact nonempty empty
    · exact longer (canonical zero)
  simp only [readNumber?, taken, dropped, if_neg refused, foldl_repr]

theorem skipBlank_indent (depth : Nat) (cs : List Char) :
    skipBlank (indent depth ++ cs) = skipBlank cs := by
  refine List.dropWhile_append_of_pos fun c mem => ?_
  rw [indent, List.mem_replicate] at mem
  simp [mem.2]

theorem skipBlank_newline (cs : List Char) : skipBlank ('\n' :: cs) = skipBlank cs := rfl

theorem skipBlank_space (cs : List Char) : skipBlank (' ' :: cs) = skipBlank cs := rfl

theorem skipBlank_colon (cs : List Char) : skipBlank (':' :: cs) = ':' :: cs := rfl

/-- What follows the first of several entries between brackets. -/
def following (closing : Char) (depth : Nat) : List (List Char) → List Char
  | [] => '\n' :: (indent depth ++ [closing])
  | entry :: entries =>
    ',' :: '\n' :: (indent (depth + 1) ++ (entry ++ following closing depth entries))

theorem bracket_cons (opening closing : Char) (depth : Nat) (entry : List Char)
    (entries : List (List Char)) :
    bracket opening closing depth (entry :: entries) =
      opening :: '\n' :: (indent (depth + 1) ++ (entry ++ following closing depth entries)) := by
  have joined : [',', '\n'].intercalate ((entry :: entries).map (indent (depth + 1) ++ ·)) ++
      '\n' :: indent depth ++ [closing] =
      indent (depth + 1) ++ (entry ++ following closing depth entries) := by
    induction entries generalizing entry with
    | nil => simp [following]
    | cons second entries ih =>
      rw [following, ← ih second]
      simp [List.intercalate_cons_cons]
  rw [bracket, if_neg (List.cons_ne_nil _ _), ← joined]
  simp

theorem following_stops (closing : Char) (depth : Nat) (entries : List (List Char))
    (rest : List Char) :
    (following closing depth entries ++ rest).takeWhile Char.isDigit = [] := by
  cases entries <;> rfl

theorem skipBlank_following_cons (closing : Char) (depth : Nat) (entry : List Char)
    (entries : List (List Char)) (rest : List Char) :
    skipBlank (following closing depth (entry :: entries) ++ rest) =
      ',' :: '\n' ::
        (indent (depth + 1) ++ (entry ++ (following closing depth entries ++ rest))) := by
  simp only [following, List.cons_append, List.append_assoc]
  rfl

theorem skipBlank_following_nil {closing : Char} (depth : Nat) {rest : List Char}
    (visible : skipBlank (closing :: rest) = closing :: rest) :
    skipBlank (following closing depth [] ++ rest) = closing :: rest := by
  simp only [following, List.cons_append, List.append_assoc, List.nil_append, skipBlank_newline,
    skipBlank_indent, visible]

/-- The characters with which written values begin. -/
def Begins (c : Char) : Prop := c.isDigit ∨ c ∈ ['n', 't', 'f', '"', '[', '\x7b']

instance : DecidablePred Begins := fun _ => inferInstanceAs (Decidable (_ ∨ _))

theorem Begins.ne {c other : Char} (begins : Begins c) (never : ¬ Begins other) : c ≠ other := by
  rintro rfl
  exact never begins

theorem Begins.skipBlank {c : Char} (begins : Begins c) (cs : List Char) :
    skipBlank (c :: cs) = c :: cs := by
  have space : c ≠ ' ' := begins.ne (by decide)
  have newline : c ≠ '\n' := begins.ne (by decide)
  have tab : c ≠ '\t' := begins.ne (by decide)
  have carriage : c ≠ '\r' := begins.ne (by decide)
  simp [Json.skipBlank, space, newline, tab, carriage]

theorem bracket_begins (opening closing : Char) (depth : Nat) (entries : List (List Char)) :
    ∃ cs, bracket opening closing depth entries = opening :: cs := by
  unfold bracket
  split <;> exact ⟨_, rfl⟩

theorem print_begins (depth : Nat) (j : Json) : ∃ c cs, print depth j = c :: cs ∧ Begins c := by
  cases j with
  | null => exact ⟨'n', _, rfl, by decide⟩
  | bool b => cases b with
    | true => exact ⟨'t', _, rfl, by decide⟩
    | false => exact ⟨'f', _, rfl, by decide⟩
  | number n =>
    obtain ⟨c, cs, digits⟩ := List.exists_cons_of_ne_nil (show n.repr.toList ≠ [] by simp)
    have mem : c ∈ n.repr.toList := by simp [digits]
    exact ⟨c, cs, digits, .inl (InterfaceId.isDigit_of_mem_repr mem)⟩
  | text s => exact ⟨'"', _, rfl, by decide⟩
  | list items =>
    obtain ⟨cs, text⟩ := bracket_begins '[' ']' depth (printItems (depth + 1) items)
    exact ⟨'[', cs, text, by decide⟩
  | object members =>
    obtain ⟨cs, text⟩ := bracket_begins '\x7b' '\x7d' depth (printMembers (depth + 1) members)
    exact ⟨'\x7b', cs, text, by decide⟩

theorem skipBlank_of_begins {text : List Char} (begins : ∃ c cs, text = c :: cs ∧ Begins c)
    (cs : List Char) : skipBlank (text ++ cs) = text ++ cs := by
  obtain ⟨c, tail, rfl, own⟩ := begins
  rw [List.cons_append, own.skipBlank]

/-- A value is read back wherever it stands, with any blanks before it and anything behind it but a
digit. -/
def Reads (j : Json) : Prop :=
  ∀ (depth fuel : Nat) (cs rest : List Char), 2 * (print depth j).length ≤ fuel →
    rest.takeWhile Char.isDigit = [] → skipBlank cs = print depth j ++ rest →
    readValue? fuel cs = some (j, rest)

theorem printItems_eq_map (depth : Nat) (items : List Json) :
    printItems depth items = items.map (print depth) := by
  induction items with
  | nil => rfl
  | cons item items ih => rw [printItems, ih, List.map_cons]

/-- A member of an object, as it stands on its line. -/
def printMember (depth : Nat) (m : Key × Json) : List Char :=
  quote m.1.text ++ ':' :: ' ' :: print depth m.2

theorem printMembers_eq_map (depth : Nat) (members : List (Key × Json)) :
    printMembers depth members = members.map (printMember depth) := by
  induction members with
  | nil => rfl
  | cons m members ih => rw [printMembers, ih, List.map_cons, printMember]

/-- A reader of entries takes an entry up to what follows it: the last one with the closing bracket,
and any other with the comma, behind which it goes on. -/
structure ReadsEntry {α : Type} (read : Nat → List Char → Option (List α × List Char))
    (print : α → List Char) (closing : Char) (a : α) : Prop where
  begins : ∃ c cs, print a = c :: cs ∧ Begins c
  last : ∀ {fuel : Nat} {cs tail rest : List Char}, 2 * (print a).length ≤ fuel →
    tail.takeWhile Char.isDigit = [] → skipBlank cs = print a ++ tail →
    skipBlank tail = closing :: rest → read (fuel + 1) cs = some ([a], rest)
  more : ∀ {fuel : Nat} {cs tail next rest : List Char} {others : List α},
    2 * (print a).length ≤ fuel → tail.takeWhile Char.isDigit = [] →
    skipBlank cs = print a ++ tail → skipBlank tail = ',' :: next →
    read fuel next = some (others, rest) → read (fuel + 1) cs = some (a :: others, rest)

section Entries

variable {α : Type} {read : Nat → List Char → Option (List α × List Char)} {print : α → List Char}
  {closing : Char} {first : α} {others : List α} {fuel : Nat} {cs rest : List Char}

/-- Entries are read up to the closing bracket. Each takes one step more than its own text pays for;
the blanks and the comma or bracket behind it pay for that step. -/
theorem read_following (depth : Nat)
    (entries : ∀ a ∈ first :: others, ReadsEntry read print closing a)
    (visible : ∀ cs, skipBlank (closing :: cs) = closing :: cs)
    (fueled : 2 * (print first ++ following closing depth (others.map print)).length ≤ fuel)
    (text : skipBlank cs = print first ++ (following closing depth (others.map print) ++ rest)) :
    read fuel cs = some (first :: others, rest) := by
  have entry := entries first List.mem_cons_self
  have stops := following_stops closing depth (others.map print) rest
  induction others generalizing first fuel cs with
  | nil =>
    simp only [List.length_append, following, List.map_nil, List.length_cons] at fueled
    obtain ⟨fuel, rfl⟩ := Nat.exists_eq_add_one_of_ne_zero (show fuel ≠ 0 by omega)
    exact entry.last (by omega) stops text (skipBlank_following_nil depth (visible rest))
  | cons second others ih =>
    simp only [List.length_append, following, List.map_cons, List.length_cons] at fueled
    obtain ⟨fuel, rfl⟩ := Nat.exists_eq_add_one_of_ne_zero (show fuel ≠ 0 by omega)
    have later := fun a mem => entries a (List.mem_cons_of_mem first mem)
    have next := later second List.mem_cons_self
    refine entry.more (by omega) stops text (skipBlank_following_cons ..) ?_
    refine ih later ?_ ?_ next (following_stops ..)
    · rw [List.length_append]
      omega
    · rw [skipBlank_newline, skipBlank_indent, skipBlank_of_begins next.begins]

/-- Behind the opening bracket the first entry is in sight, and all are read from there. -/
theorem read_bracket {opening : Char} (depth : Nat)
    (entries : ∀ a ∈ first :: others, ReadsEntry read print closing a)
    (visible : ∀ cs, skipBlank (closing :: cs) = closing :: cs) (never : ¬ Begins closing)
    (fueled : 2 * (bracket opening closing depth ((first :: others).map print)).length ≤ fuel + 1)
    (text : skipBlank cs =
      bracket opening closing depth ((first :: others).map print) ++ rest) :
    ∃ c more tail, skipBlank cs = opening :: tail ∧ skipBlank tail = c :: more ∧ c ≠ closing ∧
      read fuel (c :: more) = some (first :: others, rest) := by
  obtain ⟨c, more, begin, begins⟩ := (entries first List.mem_cons_self).begins
  rw [List.map_cons, bracket_cons] at text fueled
  simp only [List.cons_append, List.append_assoc] at text
  simp only [List.length_cons, List.length_append] at fueled
  refine ⟨c, more ++ (following closing depth (others.map print) ++ rest), _, text, ?_,
    begins.ne never, read_following depth entries visible ?_ ?_⟩
  · rw [skipBlank_newline, skipBlank_indent, begin, List.cons_append, begins.skipBlank]
  · rw [List.length_append]
    omega
  · rw [begins.skipBlank, begin, List.cons_append]

end Entries

theorem readsEntry_item (depth : Nat) {item : Json} (reads : item.Reads) :
    ReadsEntry readItems? (print depth) ']' item where
  begins := print_begins depth item
  last fueled stops text closed := by
    have value := reads depth _ _ _ fueled stops text
    simp only [readItems?, value, Option.bind_some, closed]
  more fueled stops text comma others := by
    have value := reads depth _ _ _ fueled stops text
    simp only [readItems?, value, Option.bind_some, comma, others, Option.map_some]

section Members

variable {depth fuel : Nat} {m : Key × Json} {cs tail : List Char}

theorem member_text (text : skipBlank cs = printMember depth m ++ tail) :
    skipBlank cs = '"' :: (m.1.text.toList.flatMap escape ++
      '"' :: ':' :: ' ' :: (print depth m.2 ++ tail)) := by
  simpa [printMember, quote] using text

theorem member_value (reads : m.2.Reads) (fueled : 2 * (printMember depth m).length ≤ fuel)
    (stops : tail.takeWhile Char.isDigit = []) :
    readValue? fuel (' ' :: (print depth m.2 ++ tail)) = some (m.2, tail) := by
  simp only [printMember, List.length_append, List.length_cons] at fueled
  have visible : skipBlank (' ' :: (print depth m.2 ++ tail)) = print depth m.2 ++ tail := by
    rw [skipBlank_space, skipBlank_of_begins (print_begins depth m.2)]
  exact reads depth fuel _ tail (by omega) stops visible

theorem readsEntry_member (depth : Nat) (key : m.1 = .ofText m.1.text) (reads : m.2.Reads) :
    ReadsEntry readMembers? (printMember depth) '\x7d' m where
  begins := ⟨'"', _, rfl, by decide⟩
  last fueled stops text closed := by
    simp only [readMembers?, member_text text, readKey?_quoted, Option.bind_some,
      skipBlank_colon, member_value reads fueled stops, closed, ← key]
  more fueled stops text comma others := by
    simp only [readMembers?, member_text text, readKey?_quoted, Option.bind_some,
      skipBlank_colon, member_value reads fueled stops, comma, others, Option.map_some, ← key]

end Members

theorem reads_of_step {j : Json} (step : ∀ (depth fuel : Nat) (cs rest : List Char),
    2 * (print depth j).length ≤ fuel + 1 → rest.takeWhile Char.isDigit = [] →
    skipBlank cs = print depth j ++ rest → readValue? (fuel + 1) cs = some (j, rest)) :
    j.Reads := by
  intro depth fuel cs rest fueled stops text
  obtain ⟨c, tail, begins, -⟩ := print_begins depth j
  have positive : fuel ≠ 0 := by
    rw [begins, List.length_cons] at fueled
    omega
  obtain ⟨fuel, rfl⟩ := Nat.exists_eq_add_one_of_ne_zero positive
  exact step depth fuel cs rest fueled stops text

theorem reads_null : Reads null := by
  refine reads_of_step fun depth fuel cs rest fueled stops text => ?_
  simp only [readValue?, text, print, List.cons_append, List.nil_append]

theorem reads_bool (b : Bool) : (bool b).Reads := by
  refine reads_of_step fun depth fuel cs rest fueled stops text => ?_
  cases b <;> simp only [readValue?, text, print, List.cons_append, List.nil_append]

theorem reads_text (s : String) : (text s).Reads := by
  refine reads_of_step fun depth fuel cs rest fueled stops text => ?_
  rw [print, quote, List.cons_append, List.append_assoc] at text
  simp only [readValue?, text, List.cons_append, List.nil_append, readKey?_quoted, Option.map_some]
  rfl

theorem readValue?_digit {fuel : Nat} {c : Char} {cs tail : List Char} (digit : c.isDigit)
    (text : skipBlank cs = c :: tail) :
    readValue? (fuel + 1) cs = (readNumber? (c :: tail)).map fun r => (number r.1, r.2) := by
  have other : ∀ d : Char, d.isDigit = false → c ≠ d := by
    rintro d never rfl
    rw [never] at digit
    contradiction
  simp only [readValue?, text]
  split
  case h_7 => rfl
  all_goals
    rename_i same
    exact absurd (List.cons.inj same).1 (other _ (by decide))

theorem reads_number (n : Nat) : (number n).Reads := by
  refine reads_of_step fun depth fuel cs rest fueled stops text => ?_
  obtain ⟨c, tail, digits⟩ := List.exists_cons_of_ne_nil (show n.repr.toList ≠ [] by simp)
  have mem : c ∈ n.repr.toList := by simp [digits]
  have digit : c.isDigit := InterfaceId.isDigit_of_mem_repr mem
  have whole : n.repr.toList ++ rest = c :: (tail ++ rest) := by rw [digits, List.cons_append]
  rw [print, whole] at text
  rw [readValue?_digit digit text, ← whole, readNumber?_repr n stops, Option.map_some]

theorem readValue?_items {fuel : Nat} {items : List Json} {c : Char}
    {cs tail more rest : List Char} (text : skipBlank cs = '[' :: tail)
    (first : skipBlank tail = c :: more) (inner : c ≠ ']')
    (read : readItems? fuel (c :: more) = some (items, rest)) :
    readValue? (fuel + 1) cs = some (list items, rest) := by
  simp only [readValue?, text, first]
  split
  case h_1 closed => exact absurd (List.cons.inj closed).1 inner
  case h_2 => rw [read, Option.map_some]

theorem readValue?_members {fuel : Nat} {members : List (Key × Json)} {c : Char}
    {cs tail more rest : List Char} (text : skipBlank cs = '\x7b' :: tail)
    (first : skipBlank tail = c :: more) (inner : c ≠ '\x7d')
    (read : readMembers? fuel (c :: more) = some (members, rest)) :
    readValue? (fuel + 1) cs = some (object members, rest) := by
  simp only [readValue?, text, first]
  split
  case h_1 closed => exact absurd (List.cons.inj closed).1 inner
  case h_2 => rw [read, Option.map_some]

theorem reads_list {items : List Json} (reads : ∀ item ∈ items, item.Reads) :
    (list items).Reads := by
  refine reads_of_step fun depth fuel cs rest fueled stops text => ?_
  cases items with
  | nil =>
    have closed : skipBlank (']' :: rest) = ']' :: rest := rfl
    simp only [readValue?, text, print, printItems, bracket, if_pos, List.cons_append,
      List.nil_append, closed]
  | cons item items =>
    rw [print, printItems_eq_map] at text fueled
    obtain ⟨c, more, tail, opened, first, inner, read⟩ :=
      read_bracket depth (fun i mem => readsEntry_item (depth + 1) (reads i mem)) (fun _ => rfl)
        (by decide) fueled text
    exact readValue?_items opened first inner read

theorem reads_object {members : List (Key × Json)}
    (keys : ∀ m ∈ members, m.1 = .ofText m.1.text) (reads : ∀ m ∈ members, m.2.Reads) :
    (object members).Reads := by
  refine reads_of_step fun depth fuel cs rest fueled stops text => ?_
  cases members with
  | nil =>
    have closed : skipBlank ('\x7d' :: rest) = '\x7d' :: rest := rfl
    simp only [readValue?, text, print, printMembers, bracket, if_pos, List.cons_append,
      List.nil_append, closed]
  | cons m members =>
    rw [print, printMembers_eq_map] at text fueled
    obtain ⟨c, more, tail, opened, first, inner, read⟩ :=
      read_bracket depth
        (fun n mem => readsEntry_member (depth + 1) (keys n mem) (reads n mem)) (fun _ => rfl)
        (by decide) fueled text
    exact readValue?_members opened first inner read

/-- A value is read back: of lists and objects, by induction on the values in them. -/
theorem Written.reads {j : Json} (written : j.Written) : j.Reads := by
  induction written with
  | null => exact reads_null
  | bool b => exact reads_bool b
  | number n => exact reads_number n
  | text s => exact reads_text s
  | list each ih => exact reads_list ih
  | object keys values ih => exact reads_object keys ih

/-- The text of a value holds that value and nothing else. -/
theorem Written.ofText?_pretty {j : Json} (written : j.Written) : ofText? j.pretty = some j := by
  have text : skipBlank (print 0 j) = print 0 j ++ [] := by
    have own := skipBlank_of_begins (print_begins 0 j) []
    rwa [List.append_nil] at own ⊢
  have read : readValue? (2 * (print 0 j).length + 2) (print 0 j) = some (j, []) :=
    written.reads 0 _ _ [] (by omega) rfl text
  simp only [ofText?, pretty, String.toList_ofList, read, Option.bind_some]
  rfl

end NetDesign.Json
