import NetDesign.Proofs.Interface.Scheme
import NetDesign.Proofs.Interface.Supply

set_option autoImplicit false

namespace NetDesign

namespace Supply

/-- The number can still be given out. -/
structure Grants (supply : Supply) (n : Nat) : Prop where
  later : supply.next ≤ n
  free : n ∉ supply.scheme.reserved
  inside : ∀ capacity, supply.scheme.capacity = some capacity → n < capacity

/-- The identifiers are those of the lowest numbers that can still be given out, in ascending order:
as many as are asked for, or all there are. -/
structure Enumerates (supply : Supply) (asked : Nat) (ids : List InterfaceId) : Prop where
  granted : ∀ id ∈ ids, supply.Grants id.position
  named : ∀ id ∈ ids, id.name = supply.scheme.name id.position
  ascending : ids.Pairwise fun a b => a.position < b.position
  within : ids.length ≤ asked
  /-- A number that is not given out is above all of those, which are as many as are asked for. -/
  least : ∀ n, supply.Grants n → (∃ id ∈ ids, id.position = n) ∨
    ids.length = asked ∧ ∀ id ∈ ids, id.position < n

theorem mem_of_lt_firstUnlisted {listed : List Nat} {n m : Nat} (least : n ≤ m)
    (below : m < firstUnlisted listed n) : m ∈ listed := by
  unfold firstUnlisted at below
  cases found : (List.range' n (listed.length + 1)).find? (· ∉ listed) with
  | none =>
    rw [found, Option.getD_none] at below
    omega
  | some first =>
    rw [found, Option.getD_some] at below
    have passed := (List.find?_range'_eq_some.mp found).2.2 m least below
    simpa using passed

/-- A draw gives out the lowest number that can still be given out. It is refused if there is none,
which only happens if the scheme has a capacity. -/
theorem draw_cases (supply : Supply) :
    (∃ id, supply.draw = .ok (id, ⟨supply.scheme, id.position + 1⟩) ∧
      id.name = supply.scheme.name id.position ∧ supply.Grants id.position ∧
      ∀ n, supply.Grants n → id.position ≤ n) ∨
    ∃ capacity, supply.scheme.capacity = some capacity ∧
      supply.draw = .error ⟨supply.scheme, capacity⟩ ∧ ∀ n, ¬ supply.Grants n := by
  let first := firstUnlisted supply.scheme.reserved supply.next
  have later : supply.next ≤ first := le_firstUnlisted _ _
  have free : first ∉ supply.scheme.reserved := firstUnlisted_not_mem _ _
  have least : ∀ n, supply.Grants n → first ≤ n := by
    intro n granted
    by_cases below : n < first
    · exact absurd (mem_of_lt_firstUnlisted granted.later below) granted.free
    · omega
  cases limit : supply.scheme.capacity with
  | none =>
    refine .inl ⟨⟨first, supply.scheme.name first⟩, ?_, rfl, ⟨later, free, ?_⟩, least⟩
    · rw [draw, limit]
      rfl
    · intro capacity limited
      rw [limit] at limited
      cases limited
  | some capacity =>
    by_cases inside : first < capacity
    · refine .inl ⟨⟨first, supply.scheme.name first⟩, ?_, rfl, ⟨later, free, ?_⟩, least⟩
      · simp only [draw, limit]
        exact if_pos inside
      · intro other limited
        rw [limit] at limited
        cases limited
        exact inside
    · refine .inr ⟨capacity, rfl, ?_, fun n granted => ?_⟩
      · simp only [draw, limit]
        exact if_neg inside
      · have above := least n granted
        have below := granted.inside capacity limit
        omega

/-- Behind the number that is given out the same numbers are still to come. -/
theorem Grants.of_rest {supply : Supply} {m n : Nat} (granted : supply.Grants n) (above : m < n) :
    Grants ⟨supply.scheme, m + 1⟩ n :=
  ⟨above, granted.free, granted.inside⟩

/-- A run of draws gives out the lowest numbers that there are. -/
theorem drawMany_enumerates (supply : Supply) (asked : Nat) :
    supply.Enumerates asked (supply.drawMany asked).1 := by
  induction asked generalizing supply with
  | zero =>
    exact ⟨by simp [drawMany], by simp [drawMany], .nil, Nat.le_refl 0,
      fun n _ => .inr ⟨rfl, by simp [drawMany]⟩⟩
  | succ asked ih =>
    rcases supply.draw_cases with ⟨id, drawn, name, granted, least⟩ | ⟨_, -, refused, none⟩
    · have rest := ih ⟨supply.scheme, id.position + 1⟩
      simp only [drawMany, drawn]
      refine ⟨?_, ?_, ?_, Nat.succ_le_succ rest.within, ?_⟩
      · rw [List.forall_mem_cons]
        refine ⟨granted, fun other mem => ?_⟩
        have behind := rest.granted other mem
        exact ⟨Nat.le_trans granted.later (Nat.le_of_succ_le behind.later), behind.free,
          behind.inside⟩
      · rw [List.forall_mem_cons]
        exact ⟨name, rest.named⟩
      · exact List.pairwise_cons.mpr
          ⟨fun other mem => (rest.granted other mem).later, rest.ascending⟩
      · intro n grantedToo
        rcases Nat.eq_or_lt_of_le (least n grantedToo) with same | above
        · exact .inl ⟨id, List.mem_cons_self, same⟩
        · rcases rest.least n (grantedToo.of_rest above) with ⟨other, mem, at_n⟩ | ⟨full, lower⟩
          · exact .inl ⟨other, List.mem_cons_of_mem id mem, at_n⟩
          · exact .inr ⟨congrArg Nat.succ full, List.forall_mem_cons.mpr ⟨above, lower⟩⟩
    · simp only [drawMany, refused]
      exact ⟨by simp, by simp, .nil, Nat.zero_le _, fun n granted => absurd granted (none n)⟩

theorem Enumerates.names_nodup {supply : Supply} {asked : Nat} {ids : List InterfaceId}
    (run : supply.Enumerates asked ids) : (ids.map (·.name)).Nodup := by
  rw [List.Nodup, List.pairwise_map]
  refine run.ascending.imp_of_mem fun {a b} first second lower same => ?_
  rw [run.named a first, run.named b second] at same
  have equal := supply.scheme.name_injective same
  omega

end Supply

namespace Scheme

/-- The ports of a chassis, slot by slot. -/
def slotPorts : List (Nat × Nat) :=
  (List.range slots).flatMap fun slot => (List.range ports).map fun port => (slot, port)

/-- What the names of the ports of a chassis begin with. -/
def chassis? : Scheme → Option String
  | ios => some "Ethernet"
  | ios2 => some "GigabitEthernet0/"
  | _ => none

theorem slotPorts_eq :
    slotPorts = (List.range (slots * ports)).map fun n => (n / ports, n % ports) := by
  decide

/-- The ports of a chassis are counted through its slots. -/
theorem name_of_chassis {scheme : Scheme} {stem : String} (chassis : scheme.chassis? = some stem) :
    scheme.capacity = some (slots * ports) ∧
      ∀ n, scheme.name n = stem ++ (n / ports).repr ++ "/" ++ (n % ports).repr := by
  cases scheme with
  | ios | ios2 =>
    cases chassis
    exact ⟨rfl, fun n => rfl⟩
  | _ => cases chassis

end Scheme

namespace Supply

/-- A chassis gives out its numbers one by one. -/
theorem drawMany_of_limited {scheme : Scheme} {capacity : Nat}
    (limited : scheme.capacity = some capacity) (n asked : Nat) :
    (drawMany ⟨scheme, n⟩ asked).1 =
      (List.range' n (min asked (capacity - n))).map fun i => ⟨i, scheme.name i⟩ := by
  induction asked generalizing n with
  | zero => rw [Nat.zero_min]; rfl
  | succ asked ih =>
    by_cases room : n < capacity
    · have count : min (asked + 1) (capacity - n) = min asked (capacity - (n + 1)) + 1 := by omega
      rw [count, List.range'_succ, List.map_cons, ← ih (n + 1)]
      simp only [drawMany, draw_of_limited limited, if_pos room]
      rfl
    · have count : min (asked + 1) (capacity - n) = 0 := by omega
      rw [count]
      simp only [drawMany, draw_of_limited limited, if_neg room]
      rfl

theorem names_of_chassis {scheme : Scheme} {stem : String}
    (chassis : scheme.chassis? = some stem) (asked : Nat) :
    ((ofScheme scheme).drawMany asked).1.map (·.name) =
      (Scheme.slotPorts.take asked).map fun p => stem ++ p.1.repr ++ "/" ++ p.2.repr := by
  obtain ⟨limited, names⟩ := Scheme.name_of_chassis chassis
  rw [ofScheme, drawMany_of_limited limited, Scheme.slotPorts_eq, ← List.map_take,
    List.take_range, List.map_map, List.map_map, Nat.sub_zero, ← List.range_eq_range']
  exact List.map_congr_left fun n _ => names n

/-- A draw as it happens to the supply. Reserved numbers that it passes over stay passed over, even
if then it is refused. -/
def pull (supply : Supply) : Except Exhausted InterfaceId × Supply :=
  let n := firstUnlisted supply.scheme.reserved supply.next
  let given := issue supply.scheme n
  match supply.scheme.capacity with
  | none => (.ok given.1, given.2)
  | some capacity =>
    if n < capacity then (.ok given.1, given.2)
    else (.error ⟨supply.scheme, capacity⟩, ⟨supply.scheme, n⟩)

theorem pull_of_drawn {supply rest : Supply} {id : InterfaceId}
    (drawn : supply.draw = .ok (id, rest)) : supply.pull = (.ok id, rest) := by
  simp only [draw] at drawn
  unfold pull
  cases limit : supply.scheme.capacity with
  | none =>
    simp only [limit] at drawn ⊢
    cases drawn
    rfl
  | some capacity =>
    simp only [limit] at drawn ⊢
    split at drawn
    case isTrue inside =>
      cases drawn
      exact if_pos inside
    case isFalse => cases drawn

/-- A refused draw leaves the supply as it was: schemes with a capacity reserve no numbers that it
could pass over. -/
theorem pull_of_refused {supply : Supply} {e : Exhausted} (refused : supply.draw = .error e) :
    supply.pull = (.error e, supply) := by
  simp only [draw] at refused
  unfold pull
  cases limit : supply.scheme.capacity with
  | none =>
    simp only [limit] at refused
    cases refused
  | some capacity =>
    simp only [limit, Scheme.reserved_of_limited limit, firstUnlisted_nil] at refused ⊢
    split at refused
    case isTrue => cases refused
    case isFalse full =>
      cases refused
      exact if_neg full

/-- How a supply is asked for an identifier: by a draw that tells why there is none, or by one that
does not. -/
inductive Request where
  | draw
  | next
deriving DecidableEq, Repr

inductive Answer where
  | given (id : InterfaceId)
  | refused (reason : Option Exhausted)
deriving DecidableEq, Repr

def Answer.ofDraw : Except Exhausted InterfaceId → Answer
  | .ok id => .given id
  | .error e => .refused (some e)

def Answer.ofNext : Option InterfaceId → Answer
  | some id => .given id
  | none => .refused none

/-- The answer to a request, with what is left of the supply. -/
def answer (supply : Supply) : Request → Answer × Supply
  | .draw => (.ofDraw supply.pull.1, supply.pull.2)
  | .next => (.ofNext supply.draw?.1, supply.draw?.2)

/-- The answers to requests that are made one after the other. -/
def answers (supply : Supply) : List Request → List Answer × Supply
  | [] => ([], supply)
  | request :: rest =>
    let (first, left) := supply.answer request
    let (others, last) := left.answers rest
    (first :: others, last)

/-- The answer of a scheme that has nothing left. -/
def refusal (scheme : Scheme) : Request → Answer
  | .draw => .refused (scheme.capacity.map fun capacity => ⟨scheme, capacity⟩)
  | .next => .refused none

theorem answer_of_drawn {supply rest : Supply} {id : InterfaceId}
    (drawn : supply.draw = .ok (id, rest)) (request : Request) :
    supply.answer request = (.given id, rest) := by
  cases request with
  | draw => rw [answer, pull_of_drawn drawn]; rfl
  | next => rw [answer, draw?, drawn]; rfl

theorem answer_of_refused {supply : Supply} {capacity : Nat}
    (limited : supply.scheme.capacity = some capacity)
    (refused : supply.draw = .error ⟨supply.scheme, capacity⟩) (request : Request) :
    supply.answer request = (refusal supply.scheme request, supply) := by
  cases request with
  | draw => rw [answer, pull_of_refused refused, refusal, limited]; rfl
  | next => rw [answer, draw?, refused]; rfl

theorem answers_of_refused {supply : Supply} {capacity : Nat}
    (limited : supply.scheme.capacity = some capacity)
    (refused : supply.draw = .error ⟨supply.scheme, capacity⟩) (requests : List Request) :
    supply.answers requests = (requests.map (refusal supply.scheme), supply) := by
  induction requests with
  | nil => rfl
  | cons request rest ih =>
    rw [answers, answer_of_refused limited refused]
    simp only [ih, List.map_cons]

/-- However a supply is asked, it gives what it gives to draws alone, and then refuses. -/
theorem answers_eq (supply : Supply) (requests : List Request) :
    let run := supply.drawMany requests.length
    supply.answers requests =
      (run.1.map .given ++ (requests.drop run.1.length).map (refusal supply.scheme), run.2) := by
  induction requests generalizing supply with
  | nil => rfl
  | cons request rest ih =>
    rcases supply.draw_cases with ⟨id, drawn, -⟩ | ⟨capacity, limited, refused, -⟩
    · simp only [answers, answer_of_drawn drawn, ih, List.length_cons, drawMany, drawn,
        List.map_cons, List.cons_append, List.drop_succ_cons]
    · rw [answers_of_refused limited refused]
      simp only [List.length_cons, drawMany, refused, List.map_nil, List.nil_append,
        List.length_nil, List.drop_zero]

theorem scheme_drawMany (supply : Supply) (asked : Nat) :
    (supply.drawMany asked).2.scheme = supply.scheme := by
  induction asked generalizing supply with
  | zero => rfl
  | succ asked ih =>
    rcases supply.draw_cases with ⟨id, drawn, -⟩ | ⟨_, -, refused, -⟩
    · simp only [drawMany, drawn, ih]
    · simp only [drawMany, refused]

/-- A refusal tells the capacity of the scheme, is final, and leaves the supply as it was. -/
theorem refused_of_pull {supply : Supply} {e : Exhausted} (refused : supply.pull.1 = .error e) :
    e.scheme = supply.scheme ∧ supply.scheme.capacity = some e.capacity ∧
      supply.pull.2 = supply ∧
      ∀ more, supply.answers more = (more.map (refusal supply.scheme), supply) := by
  rcases supply.draw_cases with ⟨id, drawn, -⟩ | ⟨capacity, limited, last, -⟩
  · rw [pull_of_drawn drawn] at refused
    cases refused
  · rw [pull_of_refused last] at refused ⊢
    cases refused
    exact ⟨rfl, limited, rfl, answers_of_refused limited last⟩

/-- A fresh supply that is asked `k` times, in any mixture of requests, gives out the lowest `k`
numbers that its scheme allows, or all there are. They come in ascending order and under distinct
names; those of a chassis run through its ports, slot by slot. Then it refuses, each time for the
same reason, and is not changed any more. -/
theorem answers_of_fresh (scheme : Scheme) (requests : List Request) :
    let supply := ofScheme scheme
    let given := (supply.drawMany requests.length).1
    let left := (supply.drawMany requests.length).2
    supply.Enumerates requests.length given ∧ (given.map (·.name)).Nodup ∧
    (∀ stem, scheme.chassis? = some stem → given.map (·.name) =
      (Scheme.slotPorts.take requests.length).map fun p => stem ++ p.1.repr ++ "/" ++ p.2.repr) ∧
    supply.answers requests =
      (given.map .given ++ (requests.drop given.length).map (refusal scheme), left) ∧
    ∀ e, left.pull.1 = .error e →
      e.scheme = scheme ∧ scheme.capacity = some e.capacity ∧ left.pull.2 = left ∧
      ∀ more, left.answers more = (more.map (refusal scheme), left) := by
  have run := (ofScheme scheme).drawMany_enumerates requests.length
  have kept : ((ofScheme scheme).drawMany requests.length).2.scheme = scheme :=
    scheme_drawMany (ofScheme scheme) requests.length
  refine ⟨run, run.names_nodup, fun stem chassis => names_of_chassis chassis requests.length,
    answers_eq (ofScheme scheme) requests, fun e refused => ?_⟩
  have final := refused_of_pull refused
  rwa [kept] at final

/-- A chassis that is asked once too often stays full. -/
theorem fullChassis_answers :
    let run := (ofScheme .ios).drawMany 86
    Scheme.chassis? .ios = some "Ethernet" ∧ run.2.pull.1 = .error ⟨.ios, 85⟩ ∧
      (run.1.map (·.name)).getLast? = some "Ethernet16/4" ∧ run.2.pull.2 = run.2 ∧
      run.2.answers [.next, .draw] = ([.refused none, .refused (some ⟨.ios, 85⟩)], run.2) := by
  intro run
  obtain ⟨-, -, ports, -, last⟩ := answers_of_fresh .ios (List.replicate 86 .next)
  rw [List.length_replicate] at ports last
  have refused : run.2.pull.1 = .error ⟨.ios, 85⟩ := by decide
  have names := ports "Ethernet" rfl
  obtain ⟨-, -, kept, more⟩ := last ⟨.ios, 85⟩ refused
  refine ⟨rfl, refused, ?_, kept, more [.next, .draw]⟩
  rw [names]
  decide

example : (((ofScheme .junosphere).drawMany 4).1.map (·.name)) =
    ["ge-0/0/0", "ge-0/0/1", "ge-0/0/3", "ge-0/0/4"] := by
  decide

end Supply

end NetDesign
