import Weaving.EngineError
import Weaving.Value

namespace Weaving

/-- How a call goes on in which an advice proceeds, and how a target answers it. -/
inductive Sequel where
  | returns (v : Option Value)
  | throws (e : Thrown)
  | fails (e : EngineError)
  /-- Tells of the arguments it goes on with. -/
  | describes

/-- What comes of going on, with other arguments if there are any. -/
def Sequel.run : Sequel → Option (List Value) → Except EngineError (Option Value)
  | returns v, _ => .ok v
  | throws e, _ => .error (.thrown e)
  | fails e, _ => .error e
  | describes, none => .ok (some (.text "original"))
  | describes, some arguments => .ok (some (.text (Text.commaList (arguments.map Value.render))))

/-- How a target answers a call: with an error that the text of the first argument calls
for, with an error in any case, with one of its arguments, or with a fixed value. -/
structure Response where
  refusals : List (String × Thrown)
  throws : Option Thrown
  echo : Option Nat
  returns : Option Value

def Response.run (r : Response) (arguments : List Value) : Except Thrown (Option Value) :=
  match (arguments.head?.bind fun v => r.refusals.lookup v.render).or r.throws with
  | some e => .error e
  | none => .ok (r.echo.elim r.returns fun i => arguments[i]?)

end Weaving
