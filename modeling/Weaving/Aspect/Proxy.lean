import Weaving.Aspect.Interception

namespace Weaving

/-- The stand-in for a target type, with the advisors that concern the type and the
chains that were put together for its methods. -/
structure Proxy where
  targetType : TypeInfo
  target : Option Target
  advisors : List Advisor
  chains : List (Method × List ChainElement)

namespace Proxy

def build (targetType : TypeInfo) (target : Option Target) (advisors : List Advisor) : Proxy :=
  let concerned := advisors.filter fun a => a.advice.pointcut.root.classFilter.accepts targetType
  ⟨targetType, target, sortByPrecedence Advisor.rank concerned, []⟩

/-- Whether an advisor can run on some call of a method. -/
def applies (l : Loom) (method : Method) (targetType : TypeInfo) (a : Advisor) : Bool :=
  (l.pointcut a.advice).toPointcut.canApply method targetType

/-- The chain of a method, put together afresh. -/
def freshChain (p : Proxy) (method : Method) (l : Loom) : List ChainElement :=
  (p.advisors.filter (applies l method p.targetType)).map fun a =>
    ⟨a, (l.pointcut a.advice).toPointcut.matcher.isRuntime⟩

def cached? (p : Proxy) (method : Method) : Option (List ChainElement) :=
  (p.chains.find? fun c => c.1 == method).map Prod.snd

/-- The chain of a method. It is put together once and kept. -/
def chainFor (p : Proxy) (method : Method) (l : Loom) : List ChainElement × Proxy :=
  match p.cached? method with
  | some chain => (chain, p)
  | none =>
    let chain := p.freshChain method l
    (chain, { p with chains := (method, chain) :: p.chains })

def site (p : Proxy) (method : Method) (respond : List Value → Except Thrown (Option Value)) :
    CallSite := ⟨method, p.targetType, p.target, respond⟩

/-- Calls a method through its chain. -/
def invoke (p : Proxy) (method : Method) (arguments : List Value)
    (respond : List Value → Except Thrown (Option Value)) (l : Loom) :
    CallResult × Proxy × Loom :=
  let (chain, p) := p.chainFor method l
  let (result, l) := (p.site method respond).run chain arguments l
  (result, p, l)

def render (p : Proxy) : String :=
  Text.record "AopProxy"
    [("target_type", Text.quoted p.targetType.name), ("advisors", toString p.advisors.length),
      ("cached_chains", toString p.chains.length)]

end Proxy

/-- A position in a chain from which a call can be taken up. -/
structure Invocation where
  site : CallSite
  chain : List ChainElement
  arguments : List Value

namespace Invocation

def run (i : Invocation) (l : Loom) : CallResult × Loom := i.site.run i.chain i.arguments l

/-- Passes over the first element. -/
def proceed (i : Invocation) : Continuation :=
  i.site.replace i.arguments (i.site.run i.chain.tail)

def render (i : Invocation) : String :=
  Text.record "MethodInvocation"
    [("method", Text.quoted i.site.method.render), ("index", "0"),
      ("chain_length", toString i.chain.length)]

end Invocation

end Weaving
