import Weaving.EngineError
import Weaving.Matching.ClassFilter
import Weaving.Method

namespace Weaving

/-- A condition in two parts: one on the method and the target type, and one that
needs the arguments of a call. Every check of the second part is counted on the
matcher's counter. -/
structure DynamicMatcher where
  key : String
  counter : Option String
  staticCheck : Method → TypeInfo → Bool
  runtimeCheck : Method → TypeInfo → List Value → Bool

/-- A condition on methods. Leaves are known by their keys. -/
inductive MethodMatcher where
  | all
  | static (key : String) (check : Method → TypeInfo → Bool)
  | dynamic (leaf : DynamicMatcher)
  | ofClass (filter : ClassFilter)
  | union (left : MethodMatcher) (leftFilter : Option ClassFilter)
      (right : MethodMatcher) (rightFilter : Option ClassFilter)
  | inter (left right : MethodMatcher)
  | not (inner : MethodMatcher)

/-- Whether a matcher decides by the method and the target type alone, or needs the arguments of every
call. -/
inductive MatcherKind where
  | static | dynamic
  deriving DecidableEq

def MatcherKind.render : MatcherKind → String
  | static => "Static"
  | dynamic => "Dynamic"

/-- The outcome of a check against arguments, with the dynamic leaves whose second
part was checked for it, in order. -/
structure Verdict where
  answer : Bool
  probes : List DynamicMatcher

/-- How many checks of the second part a counter has seen. -/
def DynamicMatcher.tally (probes : List DynamicMatcher) (counter : String) : Nat :=
  probes.countP fun d => d.counter == some counter

namespace MethodMatcher

instance : Inhabited MethodMatcher := ⟨all⟩

/-- Accepts the methods whose name fits the pattern. -/
def ofName (pattern : String) : MethodMatcher :=
  static ("name(" ++ pattern ++ ")") fun method _ => NamePattern.accepts ⟨pattern⟩ method.name

/-- Whether arguments are needed for a decision. -/
def isRuntime : MethodMatcher → Bool
  | all | static _ _ | ofClass _ => false
  | dynamic _ => true
  | union left _ right _ => left.isRuntime || right.isRuntime
  | inter left right => left.isRuntime || right.isRuntime
  | not inner => inner.isRuntime

def kind (m : MethodMatcher) : MatcherKind := if m.isRuntime then .dynamic else .static

/-- A missing filter admits every target type. -/
def guardAdmits (guard : Option ClassFilter) (target : TypeInfo) : Bool :=
  match guard with
  | none => true
  | some filter => filter.accepts target

/-- The decision without arguments. The negation of a condition on arguments cannot
be decided yet and is let through. -/
def accepts : MethodMatcher → Method → TypeInfo → Bool
  | all, _, _ => true
  | static _ check, method, target => check method target
  | dynamic leaf, method, target => leaf.staticCheck method target
  | ofClass filter, _, target => filter.accepts target
  | union left leftFilter right rightFilter, method, target =>
    (guardAdmits leftFilter target && left.accepts method target) ||
      (guardAdmits rightFilter target && right.accepts method target)
  | inter left right, method, target => left.accepts method target && right.accepts method target
  | not inner, method, target => inner.isRuntime || !inner.accepts method target

/-- The decision with arguments. A union stops at the first side that accepts; both
sides of an intersection are always checked. -/
def evaluate : MethodMatcher → Method → TypeInfo → List Value → Verdict
  | dynamic leaf, method, target, args => ⟨leaf.runtimeCheck method target args, [leaf]⟩
  | union left leftFilter right rightFilter, method, target, args =>
    let first : Verdict :=
      if guardAdmits leftFilter target then left.evaluate method target args else ⟨false, []⟩
    if first.answer then first
    else if guardAdmits rightFilter target then
      let second := right.evaluate method target args
      ⟨second.answer, first.probes ++ second.probes⟩
    else ⟨false, first.probes⟩
  | inter left right, method, target, args =>
    let first := left.evaluate method target args
    let second := right.evaluate method target args
    ⟨first.answer && second.answer, first.probes ++ second.probes⟩
  | not inner, method, target, args =>
    let verdict := inner.evaluate method target args
    ⟨!verdict.answer, verdict.probes⟩
  | all, _, _, _ => ⟨true, []⟩
  | static _ check, method, target, _ => ⟨check method target, []⟩
  | ofClass filter, _, target, _ => ⟨filter.accepts target, []⟩

def renderGuard (guard : Option ClassFilter) : String :=
  Text.optional (guard.map ClassFilter.render)

def render : MethodMatcher → String
  | all => "MethodMatcher.TRUE"
  | static key _ => "Static(" ++ key ++ ")"
  | dynamic leaf => "Dynamic(" ++ leaf.key ++ ")"
  | ofClass filter => "Class(" ++ filter.render ++ ")"
  | union left none right none => "Union(" ++ left.render ++ ", " ++ right.render ++ ")"
  | union left leftFilter right rightFilter =>
    "Union(" ++ left.render ++ " if " ++ renderGuard leftFilter ++ ", " ++
      right.render ++ " if " ++ renderGuard rightFilter ++ ")"
  | inter left right => "Intersection(" ++ left.render ++ ", " ++ right.render ++ ")"
  | not inner => "Negate(" ++ inner.render ++ ")"

/-- A matcher that looks at arguments is evaluated against them; to ask any other is a
mistake of the caller. -/
def acceptsArgs (matcher : MethodMatcher) (method : Method) (target : TypeInfo)
    (args : List Value) : Except EngineError Verdict :=
  if matcher.isRuntime then .ok (matcher.evaluate method target args)
  else .error (.usage ("static method matcher " ++ matcher.render ++
    " cannot be evaluated against runtime arguments"))

/-- Equality of matchers: the operands of a union or an intersection may be swapped,
leaves are equal when their keys are. The first side of a union takes the first side of the
other one that it is equal to. -/
def same : MethodMatcher → MethodMatcher → Bool
  | all, all => true
  | static a _, static b _ => a == b
  | dynamic a, dynamic b => a.key == b.key
  | ofClass a, ofClass b => a == b
  | union a fa b fb, union c fc d fd =>
    if a.same c && fa == fc then b.same d && fb == fd
    else a.same d && fa == fd && (b.same c && fb == fc)
  | inter a b, inter c d => (a.same c && b.same d) || (a.same d && b.same c)
  | not a, not b => a.same b
  | _, _ => false

instance : BEq MethodMatcher := ⟨same⟩

/-- A digest that does not depend on the order of operands. -/
def digest : MethodMatcher → UInt64
  | all => 1
  | static key _ => mixHash 2 (hash key)
  | dynamic leaf => mixHash 3 (hash leaf.key)
  | ofClass filter => mixHash 4 (hash filter)
  | union left leftFilter right rightFilter =>
    mixHash 5 (ClassFilter.unorderedDigest 2
      (mixHash left.digest (hash leftFilter) + mixHash right.digest (hash rightFilter)))
  | inter left right => mixHash 6 (ClassFilter.unorderedDigest 2 (left.digest + right.digest))
  | not inner => mixHash 7 inner.digest

instance : Hashable MethodMatcher := ⟨digest⟩

/-- Whether the matcher is a union with a filter on one of its sides; none if it is no union. -/
def isFilterAware? : MethodMatcher → Option Bool
  | union _ leftFilter _ rightFilter => some (leftFilter.isSome || rightFilter.isSome)
  | _ => none

end MethodMatcher

end Weaving
