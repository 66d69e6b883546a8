import Weaving.Proofs.ExpressionReading
import Weaving.Proofs.ProxyHistory

namespace Weaving

namespace Expr

def readsArguments : Expr → Bool
  | execution _ | within _ => false
  | args _ _ => true
  | and l r | or l r => l.readsArguments || r.readsArguments
  | not e => e.readsArguments

theorem isRuntime_matcher (formals : Formals) (e : Expr) :
    (e.matcher formals).isRuntime = e.readsArguments := by
  induction e with
  | execution | within | args => rfl
  | and l r ihl ihr | or l r ihl ihr =>
      simp only [matcher, MethodMatcher.isRuntime, readsArguments, ihl, ihr]
  | not e ih => simp [matcher, MethodMatcher.isRuntime, readsArguments, ih]

end Expr

namespace ExpressionPointcut

variable {p : ExpressionPointcut} {method : Method} {targetType : TypeInfo} {args : List Value}

/-- The reading of a pointcut on a call whose chain was put together for `first`. Only a
pointcut that looks at arguments is read on the called method itself. -/
def chosen (p : ExpressionPointcut) (first method : Method) (targetType : TypeInfo)
    (args : List Value) : Bool :=
  p.root.holdsOnTarget p.formals (if p.root.readsArguments then method else first) targetType args

theorem isRuntime_toPointcut : p.toPointcut.matcher.isRuntime = p.root.readsArguments :=
  p.root.isRuntime_matcher p.formals

theorem selects_toPointcut :
    p.toPointcut.selects method targetType args = p.root.holdsOnTarget p.formals method targetType args :=
  p.root.selects_eq_holdsOnTarget

end ExpressionPointcut

variable {l : Loom} {s : CallSite} {first : Method} {args : List Value}

/-- An element that lets its advice run on a call has been chosen for it. -/
theorem ChainElement.Selected.chosen {e : ChainElement} (h : e.Selected l first s.targetType)
    (hpass : s.admits e (l.pointcut e.advisor.advice) args = .ok true) :
    (l.pointcut e.advisor.advice).chosen first s.method s.targetType args = true := by
  obtain ⟨happlies, hruntime⟩ := h
  generalize hp : l.pointcut e.advisor.advice = p at hpass hruntime
  simp only [Proxy.applies, hp] at happlies
  simp only [CallSite.admits, hruntime] at hpass
  simp only [ExpressionPointcut.chosen, ← ExpressionPointcut.selects_toPointcut]
  cases hread : p.root.readsArguments with
  | false =>
      exact Pointcut.selects_of_canApply (ExpressionPointcut.isRuntime_toPointcut.trans hread) happlies
  | true =>
      have hr := ExpressionPointcut.isRuntime_toPointcut.trans hread
      simp only [hr, if_true, MethodMatcher.acceptsArgs, Except.map, Except.ok.injEq] at hpass
      simp only [Pointcut.canApply, Bool.and_eq_true] at happlies
      simp [Pointcut.selects, happlies.1, hpass]

/-- An advisor that is chosen for a call has an element that lets its advice run on it. -/
theorem exists_selected_of_chosen {a : Advisor} (hlen : args.length = s.method.parameters.length)
    (hfirst : (first == s.method) = true)
    (h : (l.pointcut a.advice).chosen first s.method s.targetType args = true) :
    ∃ e : ChainElement, e.advisor = a ∧
      (∃ first : Method, (first == s.method) = true ∧ e.Selected l first s.targetType) ∧
      s.admits e (l.pointcut a.advice) args = .ok true := by
  refine ⟨⟨a, (l.pointcut a.advice).toPointcut.matcher.isRuntime⟩, rfl, ?_⟩
  simp only [ChainElement.Selected, Proxy.applies, CallSite.admits, and_true]
  generalize l.pointcut a.advice = p at h
  simp only [ExpressionPointcut.chosen, ← ExpressionPointcut.selects_toPointcut] at h
  cases hread : p.root.readsArguments with
  | false =>
      have hr := ExpressionPointcut.isRuntime_toPointcut.trans hread
      simp only [hread, Bool.false_eq_true, if_false, Pointcut.selects,
        MethodMatcher.evaluate_of_not_isRuntime hr] at h
      simpa [hr] using ⟨first, hfirst, h⟩
  | true =>
      have hr := ExpressionPointcut.isRuntime_toPointcut.trans hread
      rw [hread, if_pos rfl] at h
      refine ⟨⟨s.method, BEq.rfl, Pointcut.canApply_of_selects (p.root.matcher_staged hlen) h⟩, ?_⟩
      simp only [Pointcut.selects, Bool.and_eq_true] at h
      simp [hr, MethodMatcher.acceptsArgs, Except.map, h.2]

namespace Proxy

/-- Calls a method through its chain with a fallback of its own. -/
def invokeOr (p : Proxy) (fallback : Fallback) (method : Method) (arguments : List Value)
    (respond : List Value → Except Thrown (Option Value)) (l : Loom) : CallResult × Proxy × Loom :=
  let (chain, p) := p.chainFor method l
  let (result, l) := (p.site method respond).runOr fallback chain arguments l
  (result, p, l)

variable {method : Method} {targetType : TypeInfo} {a : Advisor}

theorem site_chainFor (p : Proxy) (m : Method) (respond : List Value → Except Thrown (Option Value)) :
    (p.chainFor m l).2.site method respond = p.site method respond := by
  simp only [chainFor]
  split <;> rfl

theorem invokeOr_congr {p : Proxy} {fallback : Fallback} {arguments : List Value}
    {respond : List Value → Except Thrown (Option Value)}
    (h : (p.site method respond).runOr fallback (p.chainFor method l).1 arguments l =
      (p.site method respond).run (p.chainFor method l).1 arguments l) :
    p.invokeOr fallback method arguments respond l = p.invoke method arguments respond l := by
  simp only [invokeOr, invoke, site_chainFor, h]

/-- The first element takes a call to the fallback that its pointcut does not match. -/
theorem invokeOr_of_head {p : Proxy} (fallback : Fallback) {e : ChainElement} {rest : List ChainElement}
    (hsite : p.site s.method s.respond = s) (hchain : (p.chainFor s.method l).1 = e :: rest)
    (hpass : s.admits e (l.pointcut e.advisor.advice) args = .ok true)
    (hnone : (l.pointcut e.advisor.advice).captures? s.method s.targetType args = none) :
    ∃ next, (p.invokeOr fallback s.method args s.respond l).1 = (fallback e args next l).1 := by
  refine ⟨s.replace args (s.runOr fallback rest), ?_⟩
  simp only [invokeOr, site_chainFor, hsite, hchain, CallSite.runOr, hpass, hnone]

/-- A chain of one advisor is kept for every method that equals the first one asked for. -/
theorem chainFor_build_singleton (target : Option Target) (h : applies l first targetType a = true)
    (hfirst : (first == method) = true) :
    (((build targetType target [a]).chainFor first l).2.chainFor method l).1 =
      [⟨a, (l.pointcut a.advice).toPointcut.matcher.isRuntime⟩] := by
  have hsort : sortByPrecedence Advisor.rank [a] = [a] := List.perm_singleton.1 (sortByPrecedence_perm [a])
  simp [build, accepts_of_applies h, hsort, chainFor, cached?, freshChain, h, hfirst]

/-- A proxy of one advisor comes to the fallback at once, if its pointcut is chosen for a call
that it does not match and the chain is put together for the right method first. -/
theorem exists_leads_to_fallback (hlen : args.length = method.parameters.length)
    (hfirst : (first == method) = true)
    (hchosen : (l.pointcut a.advice).chosen first method targetType args = true)
    (hnone : (l.pointcut a.advice).captures? method targetType args = none) :
    ∃ p, (build targetType none [a]).Leads l p l ∧ ∀ respond fallback, ∃ e next,
      (p.invokeOr fallback method args respond l).1 = (fallback e args next l).1 := by
  let s : CallSite := ⟨method, targetType, none, fun _ => .ok none⟩
  obtain ⟨e, rfl, ⟨other, hother, hselected⟩, hpass⟩ :=
    exists_selected_of_chosen (s := s) hlen hfirst hchosen
  have hchain := chainFor_build_singleton none hselected.1 hother
  rw [← hselected.2] at hchain
  refine ⟨_, .chainFor .refl other, fun respond fallback => ⟨e, ?_⟩⟩
  exact invokeOr_of_head (s := { s with respond }) fallback (site_chainFor _ other respond) hchain hpass hnone

/-- Calls of the method never come to the fallback: whichever of the advisors a proxy of the type
is built from, and whatever it went through before, what is done there makes no difference. -/
def FallbackUnused (l : Loom) (targetType : TypeInfo) (method : Method) (advisors : List Advisor) : Prop :=
  ∀ those ⊆ advisors, ∀ target p l', (build targetType target those).Leads l p l' →
    ∀ arguments respond fallback, arguments.length = method.parameters.length →
      p.invokeOr fallback method arguments respond l' = p.invoke method arguments respond l'

/-- Calls of a method never come to the fallback, whatever the advice proceeds with, exactly if
every pointcut that is chosen for a call of the method matches the call. -/
theorem fallbackUnused_iff (l : Loom) (targetType : TypeInfo) (method : Method)
    (advisors : List Advisor) (hr : ∀ a ∈ advisors, a.Returned l) :
    FallbackUnused l targetType method advisors ↔
      ∀ a ∈ advisors, ∀ arguments first, arguments.length = method.parameters.length →
        (first == method) = true →
        (l.pointcut a.advice).chosen first method targetType arguments = true →
          ((l.pointcut a.advice).captures? method targetType arguments).isSome = true := by
  constructor
  · intro h a ha arguments first hlen hfirst hchosen
    by_contra hnone
    rw [Bool.not_eq_true, Option.isSome_eq_false_iff, Option.isNone_iff_eq_none] at hnone
    obtain ⟨p, hp, hcome⟩ := exists_leads_to_fallback hlen hfirst hchosen hnone
    have hresult (result : CallResult) :
        (p.invoke method arguments (fun _ => .ok none) l).1 = result := by
      obtain ⟨e, next, heq⟩ := hcome (fun _ => .ok none) fun _ _ _ l => (result, l)
      rwa [h [a] (by simpa using ha) none p l hp arguments _ _ hlen] at heq
    -- Two fallbacks with different results would give one result.
    have herror := hresult (.error (.usage ""))
    rw [hresult (.ok none)] at herror
    exact absurd herror nofun
  · intro h those hsub target p l' hleads arguments respond fallback hlen
    have hr' : ∀ a ∈ those, a.Returned l := fun a ha => hr a (hsub ha)
    obtain ⟨hl, hserves⟩ := hleads.serves (build_serves l targetType target those) hr'
    obtain rfl := hserves.targetType_eq
    apply invokeOr_congr
    rw [← CallSite.runOr_emptyHanded]
    refine (CallSite.runOr_alike fun e he others l'' next other hothers hl'' _ hpass hnone => ?_).1
    obtain ⟨hmem, first, hfirst, hselected⟩ := hserves.mem_chainFor hr' hl he
    rw [(hr' _ hmem).pointcut_eq (hl.trans hl'')] at hpass hnone
    have hsome := h _ (hsub hmem) others first (hothers.trans hlen) hfirst (hselected.chosen hpass)
    exact absurd hnone (Option.isSome_iff_ne_none.1 hsome)

/-- Advice on what is not an execution in `Base` runs on a method that `Base` declares, since the
target does not name `Base`. On a method of the target it runs rightly. -/
theorem fallback_used_on_inherited_method :
    let guard := AspectDefinition.idle "guard" 0 [("check", "Before", "!execution(* Base.find(..))")]
    let given := guard.advisors (guard.factory (.empty 0)).1 (.standard true) (.empty 0)
    let advisors := given.1.toOption.getD []
    let find (owner : String) : Method := ⟨.ofName owner, "find", [], none⟩
    (∀ a ∈ advisors, a.Returned given.2) ∧
      ¬ FallbackUnused given.2 (.ofName "Derived") (find "Base") advisors ∧
      FallbackUnused given.2 (.ofName "Derived") (find "Derived") advisors := by
  intro guard given advisors find
  have hr := guard.returned_of_advisors (guard.factory (.empty 0)).1 (.standard true) (.empty 0)
  refine ⟨hr, ?_, ?_⟩
  · rw [fallbackUnused_iff given.2 _ (find "Base") advisors hr]
    intro h
    have hany : (advisors.any fun a =>
        (given.2.pointcut a.advice).chosen (find "Base") (find "Base") (.ofName "Derived") [] &&
          !((given.2.pointcut a.advice).captures? (find "Base") (.ofName "Derived") []).isSome) = true := by
      decide +kernel
    obtain ⟨a, ha, hcall⟩ := List.any_eq_true.1 hany
    rw [Bool.and_eq_true] at hcall
    simp [h a ha [] (find "Base") rfl BEq.rfl hcall.1] at hcall
  · rw [fallbackUnused_iff given.2 _ (find "Derived") advisors hr]
    intro a ha arguments first hlen _ _
    obtain rfl := List.length_eq_zero_iff.1 hlen
    have hall : (advisors.all fun a =>
        ((given.2.pointcut a.advice).captures? (find "Derived") (.ofName "Derived") []).isSome) = true := by
      decide +kernel
    exact List.all_eq_true.1 hall a ha

end Proxy

end Weaving
