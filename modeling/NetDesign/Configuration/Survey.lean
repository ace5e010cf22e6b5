import NetDesign.Diagnostic

set_option autoImplicit false

namespace NetDesign

/-- What is found at one link or session. -/
inductive Finding (α : Type) where
  | entry (a : α)
  | omission (o : Omission)
  | failure (c : Cause)
deriving DecidableEq, Repr

/-- What is found on the whole: the omissions, and the result or the reason why there is none. -/
structure Survey (α : Type) where
  omissions : List Omission
  result : Except Cause α

namespace Survey

variable {α β : Type}

def fail (c : Cause) : Survey α := ⟨[], .error c⟩

/-- Gathers findings, up to the first failure. What was left out before it is still noted. -/
def collect : List (Finding α) → Survey (List α)
  | [] => ⟨[], .ok []⟩
  | .entry a :: rest => { collect rest with result := (collect rest).result.map (a :: ·) }
  | .omission o :: rest => { collect rest with omissions := o :: (collect rest).omissions }
  | .failure c :: _ => fail c

def andThen (s : Survey α) (next : α → Except Cause β) : Survey β :=
  ⟨s.omissions, s.result.bind next⟩

/-- Notes omissions ahead of the others. -/
def noting (omissions : List Omission) (s : Survey α) : Survey α :=
  { s with omissions := omissions ++ s.omissions }

end Survey

end NetDesign
