import Weaving.Advice.Arguments

namespace Weaving

/-- How an advice body can fail. -/
inductive AdviceFailure where
  | mismatch (m : ArgumentMismatch)
  | thrown (e : Thrown)
  | engine (e : EngineError)

namespace AdviceFailure

/-- A business error stays a business error. -/
def ofEngineError : EngineError → AdviceFailure
  | .thrown e => thrown e
  | e => engine e

/-- The name of the kind of failure. -/
def label : AdviceFailure → String
  | mismatch _ => "Mismatch"
  | thrown _ => "Thrown"
  | engine _ => "Aop"

end AdviceFailure

/-- What bodies keep from one run to the next, by name. -/
abbrev Memory := String → Option Value

/-- The course of an advice body: what it does, step by step, in answer to what it finds in the
memory and to what each proceeding gives back. -/
inductive Course where
  | done (result : Except AdviceFailure (Option Value))
  | log (text : String) (rest : Course)
  /-- Looks at the memory, and changes it. -/
  | access (change : Memory → Memory) (next : Memory → Course)
  | proceed (arguments : Option (List Value))
      (next : Except EngineError (Option Value) → Course)

namespace Course

/-- Runs a course over a state that `log`, `access` and `proceed` change. -/
def run {σ : Type} (log : String → σ → σ) (access : (Memory → Memory) → σ → Memory × σ)
    (proceed : Option (List Value) → σ → Except EngineError (Option Value) × σ) :
    Course → σ → Except AdviceFailure (Option Value) × σ
  | done result, s => (result, s)
  | .log text rest, s => rest.run log access proceed (log text s)
  | .access change next, s =>
    let seen := access change s
    (next seen.1).run log access proceed seen.2
  | .proceed arguments next, s =>
    let answer := proceed arguments s
    (next answer.1).run log access proceed answer.2

/-- Ends with a mismatch, or goes on with the argument that was read. -/
def reading {α : Type} (r : Except ArgumentMismatch α) (next : α → Course) : Course :=
  match r with
  | .error m => done (.error (.mismatch m))
  | .ok a => next a

end Course

/-- An advice body: what it does with an aspect and its arguments. What it did before it can find
in the memory. -/
abbrev AdviceBody := Value → Arguments → Course

/-- A body that does nothing and returns nothing. -/
def AdviceBody.idle : AdviceBody := fun _ _ => .done (.ok none)

end Weaving
