import Weaving.Matching.MethodMatcher

namespace Weaving

/-- A set of calls: a condition on the target type and one on the method. -/
structure Pointcut where
  classFilter : ClassFilter
  matcher : MethodMatcher
  deriving BEq, Hashable, Inhabited

namespace Pointcut

/-- Whether some call of the method can belong to the pointcut. -/
def canApply (p : Pointcut) (method : Method) (target : TypeInfo) : Bool :=
  p.classFilter.accepts target && p.matcher.accepts method target

/-- Whether the call belongs to the pointcut. Arguments are looked at only when the
method and the target type leave the question open. -/
def acceptsCall (p : Pointcut) (method : Method) (target : TypeInfo) (args : List Value) :
    Except EngineError Verdict :=
  if !p.canApply method target then .ok ⟨false, []⟩
  else if p.matcher.isRuntime then p.matcher.acceptsArgs method target args
  else .ok ⟨true, []⟩

/-- The calls in one of two pointcuts. Each method condition is tied to its own class
condition, so that neither applies to the other's types. -/
def union (p q : Pointcut) : Pointcut :=
  ⟨.union [p.classFilter, q.classFilter],
    .union p.matcher (some p.classFilter) q.matcher (some q.classFilter)⟩

def inter (p q : Pointcut) : Pointcut :=
  ⟨.inter [p.classFilter, q.classFilter], .inter p.matcher q.matcher⟩

def render (p : Pointcut) : String :=
  Text.record "ComposablePointcut"
    [("class_filter", p.classFilter.render), ("method_matcher", p.matcher.render)]

end Pointcut

end Weaving
