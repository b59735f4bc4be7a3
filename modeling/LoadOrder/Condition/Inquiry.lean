import LoadOrder.Condition.Expr

/-!
# Inquiries

An inquiry is a computation that puts conditions to an evaluator one at a time and goes on with the
answers. It may be run to its end, it may be asked which conditions it puts, and several inquiries
may be run side by side, advancing by turns as a schedule says.
-/

namespace LoadOrder.Condition

/-- What an evaluator says about a condition. -/
abbrev Answer : Type := Except Error Bool

/-- A computation that puts conditions to an evaluator. -/
inductive Inquiry (α : Type) where
  | done (result : α)
  | ask (condition : String) (next : Answer → Inquiry α)

namespace Inquiry

variable {α β : Type}

/-- One inquiry followed by another that depends on its result. -/
def bind : Inquiry α → (α → Inquiry β) → Inquiry β
  | done result, f => f result
  | ask condition next, f => ask condition fun answer => (next answer).bind f

instance : Monad Inquiry where
  pure := done
  bind := bind

/-- The result when the conditions are answered by a function. -/
def run (answer : String → Answer) : Inquiry α → α
  | done result => result
  | ask condition next => (next (answer condition)).run answer

/-- The conditions put, in order, when they are answered by a function. -/
def asked (answer : String → Answer) : Inquiry α → List String
  | done _ => []
  | ask condition next => condition :: (next (answer condition)).asked answer

/-- The inquiry after its next condition has been answered; an inquiry at its end stays. -/
def advance (answer : String → Answer) : Inquiry α → Inquiry α
  | done result => done result
  | ask condition next => next (answer condition)

/-- Inquiries run side by side: each entry of the schedule lets the inquiry of that number answer
one condition. -/
def interleave (answer : String → Answer) (schedule : List Nat) (inquiries : List (Inquiry α)) :
    List (Inquiry α) :=
  schedule.foldl (fun inquiries i => inquiries.modify i (advance answer)) inquiries

/-- The results of inquiries that run side by side for the length of a schedule and are then each
run to the end. -/
def runTogether (answer : String → Answer) (schedule : List Nat) (inquiries : List (Inquiry α)) :
    List α :=
  (interleave answer schedule inquiries).map (run answer)

/-! ### Characterization -/

@[simp] theorem run_pure (answer : String → Answer) (a : α) :
    (pure a : Inquiry α).run answer = a := rfl

@[simp] theorem run_bind (answer : String → Answer) (inquiry : Inquiry α) (f : α → Inquiry β) :
    (inquiry >>= f).run answer = (f (inquiry.run answer)).run answer := by
  change (inquiry.bind f).run answer = _
  induction inquiry with
  | done result => rfl
  | ask condition next ih => exact ih (answer condition)

@[simp] theorem asked_pure (answer : String → Answer) (a : α) :
    (pure a : Inquiry α).asked answer = [] := rfl

@[simp] theorem asked_bind (answer : String → Answer) (inquiry : Inquiry α) (f : α → Inquiry β) :
    (inquiry >>= f).asked answer = inquiry.asked answer ++ (f (inquiry.run answer)).asked answer := by
  change (inquiry.bind f).asked answer = _
  induction inquiry with
  | done result => rfl
  | ask condition next ih => exact congrArg (condition :: ·) (ih (answer condition))

/-- Advancing an inquiry does not change its result. -/
@[simp] theorem run_advance (answer : String → Answer) (inquiry : Inquiry α) :
    (inquiry.advance answer).run answer = inquiry.run answer := by
  cases inquiry <;> rfl

end Inquiry

end LoadOrder.Condition
