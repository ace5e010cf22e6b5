import NetDesign.Configuration.Survey

set_option autoImplicit false

namespace NetDesign

theorem findSome?_congr {α β : Type} {f g : α → Option β} {items : List α}
    (same : ∀ a ∈ items, f a = g a) : items.findSome? f = items.findSome? g := by
  induction items with
  | nil => rfl
  | cons a rest ih =>
    rw [List.findSome?_cons, List.findSome?_cons, same a List.mem_cons_self,
      ih fun b mem => same b (List.mem_cons_of_mem _ mem)]

variable {α : Type}

theorem mapError_ok {ε ε' : Type} (f : ε → ε') (a : α) :
    (Except.ok a : Except ε α).mapError f = .ok a := rfl

namespace Finding

def found? : Finding α → Option α
  | entry a => some a
  | omission _ => none
  | failure _ => none

def omission? : Finding α → Option Omission
  | entry _ => none
  | omission o => some o
  | failure _ => none

def failure? : Finding α → Option Cause
  | entry _ => none
  | omission _ => none
  | failure c => some c

theorem found?_eq_some {finding : Finding α} {a : α} :
    finding.found? = some a ↔ finding = .entry a := by
  cases finding <;> simp [found?]

end Finding

namespace Survey

theorem collect_result (findings : List (Finding α)) :
    (collect findings).result =
      match findings.findSome? Finding.failure? with
      | some c => .error c
      | none => .ok (findings.filterMap Finding.found?) := by
  induction findings with
  | nil => rfl
  | cons finding rest ih =>
    cases finding with
    | entry a =>
      simp only [collect, ih, List.findSome?_cons, Finding.failure?]
      cases rest.findSome? Finding.failure? <;> rfl
    | omission o =>
      simp only [collect, ih, List.findSome?_cons, Finding.failure?]
      cases rest.findSome? Finding.failure? <;> rfl
    | failure c => rfl

/-- A survey that comes to an end has met no failure and gathered every entry. -/
theorem of_collect_ok {findings : List (Finding α)} {entries : List α}
    (ended : (collect findings).result = .ok entries) :
    (∀ finding ∈ findings, finding.failure? = none) ∧
      entries = findings.filterMap Finding.found? := by
  rw [collect_result] at ended
  split at ended
  · cases ended
  case h_2 smooth =>
    cases ended
    exact ⟨List.findSome?_eq_none_iff.mp smooth, rfl⟩

/-- A survey that comes to an end notes every omission. -/
theorem collect_omissions {findings : List (Finding α)} {entries : List α}
    (ended : (collect findings).result = .ok entries) :
    (collect findings).omissions = findings.filterMap Finding.omission? := by
  induction findings generalizing entries with
  | nil => rfl
  | cons finding rest ih =>
    cases finding with
    | entry a =>
      rw [collect] at ended
      cases gathered : (collect rest).result with
      | error c => rw [gathered] at ended; cases ended
      | ok found => exact ih gathered
    | omission o => exact congrArg (o :: ·) (ih ended)
    | failure c => cases ended

/-- A survey that fails has noted the omissions before the first failure. -/
theorem of_collect_error {findings : List (Finding α)} {c : Cause}
    (failed : (collect findings).result = .error c) :
    ∃ before after, findings = before ++ .failure c :: after ∧
      (∀ finding ∈ before, finding.failure? = none) ∧
      (collect findings).omissions = before.filterMap Finding.omission? := by
  induction findings with
  | nil => cases failed
  | cons finding rest ih =>
    have later (failed : (collect rest).result = .error c) (smooth : finding.failure? = none) :
        ∃ before after, finding :: rest = before ++ .failure c :: after ∧
          (∀ f ∈ before, f.failure? = none) ∧
          (finding.omission?.toList ++ (collect rest).omissions) =
            before.filterMap Finding.omission? := by
      obtain ⟨before, after, rfl, sound, noted⟩ := ih failed
      refine ⟨finding :: before, after, rfl, ?_, ?_⟩
      · exact List.forall_mem_cons.mpr ⟨smooth, sound⟩
      · rw [noted, List.filterMap_cons]
        cases finding.omission? <;> rfl
    cases finding with
    | entry a =>
      cases result : (collect rest).result with
      | ok entries => rw [collect, result] at failed; cases failed
      | error d =>
        rw [collect, result] at failed
        cases failed
        exact later result rfl
    | omission o => exact later failed rfl
    | failure d =>
      cases failed
      exact ⟨[], rest, rfl, by simp, rfl⟩

theorem andThen_ok {β : Type} {survey : Survey α} {next : α → Except Cause β} {b : β}
    (ended : (survey.andThen next).result = .ok b) :
    ∃ a, survey.result = .ok a ∧ next a = .ok b := by
  cases before : survey.result with
  | error c => rw [andThen, before] at ended; cases ended
  | ok a => exact ⟨a, rfl, by rw [andThen, before] at ended; exact ended⟩

end Survey

end NetDesign
