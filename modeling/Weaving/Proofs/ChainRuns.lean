import Weaving.Proofs.LoomPlans

namespace Weaving

/-- What is done with an advice that was selected for a call its pointcut does not match. -/
abbrev Fallback := ChainElement → List Value → Continuation → Loom → CallResult × Loom

namespace CallSite

variable (s : CallSite)

/-- Runs a call through a chain with a fallback of its own. -/
def runOr (fallback : Fallback) : List ChainElement → List Value → Loom → CallResult × Loom
  | [], arguments, l => s.callTarget arguments l
  | e :: rest, arguments, l =>
    let pointcut := l.pointcut e.advisor.advice
    match s.admits e pointcut arguments with
    | .error error => (.error error, l)
    | .ok false => runOr fallback rest arguments l
    | .ok true =>
      let next := s.replace arguments (runOr fallback rest)
      match pointcut.captures? s.method s.targetType arguments with
      | none => fallback e arguments next l
      | some captured =>
        e.advisor.advice.intercept { s.joinPoint arguments with captured := some captured } s.target next l

/-- The fallback of a run: the advice runs and captures nothing. -/
def emptyHanded : Fallback := fun e arguments next l =>
  e.advisor.advice.intercept { s.joinPoint arguments with captured := some .empty } s.target next l

theorem runOr_emptyHanded : s.runOr s.emptyHanded = s.run := by
  funext chain
  induction chain with
  | nil => rfl
  | cons e rest ih =>
      funext arguments l
      simp only [runOr, run, ih]
      cases s.admits e (l.pointcut e.advisor.advice) arguments with
      | error error => rfl
      | ok admitted =>
          cases admitted with
          | false => rfl
          | true => cases (l.pointcut e.advisor.advice).captures? s.method s.targetType arguments <;> rfl

variable {s}

theorem replace_alike {l : Loom} {arguments : List Value}
    {run other : List Value → Loom → CallResult × Loom}
    (h : ∀ others l', others.length = arguments.length → l.Keeps l' →
      l'.Alike (run others l') (other others l')) :
    Continuation.Alike l (s.replace arguments run) (s.replace arguments other) := by
  intro others l' hl
  cases others with
  | none => exact h arguments l' rfl hl
  | some others =>
      simp only [replace]
      split
      · next hlen => exact h others l' hlen hl
      · exact (Loom.Keeps.refl l').alike _

/-- Wherever a run comes to its fallback, it may as well take the other one. -/
def Exchanges (s : CallSite) (l : Loom) (n : Nat) (f g : Fallback) (e : ChainElement) : Prop :=
  ∀ arguments l' next other, arguments.length = n → l.Keeps l' → Continuation.Alike l' next other →
    s.admits e (l'.pointcut e.advisor.advice) arguments = .ok true →
    (l'.pointcut e.advisor.advice).captures? s.method s.targetType arguments = none →
    l'.Alike (f e arguments next l') (g e arguments other l')

theorem Exchanges.later {l l' : Loom} {n : Nat} {f g : Fallback} {e : ChainElement}
    (h : s.Exchanges l n f g e) (hl : l.Keeps l') : s.Exchanges l' n f g e :=
  fun arguments l'' next other hlen hl' => h arguments l'' next other hlen (hl.trans hl')

theorem runOr_alike {f g : Fallback} {chain : List ChainElement} {arguments : List Value} {l : Loom}
    (h : ∀ e ∈ chain, s.Exchanges l arguments.length f g e) :
    l.Alike (s.runOr f chain arguments l) (s.runOr g chain arguments l) := by
  induction chain generalizing arguments l with
  | nil =>
      simp only [runOr, callTarget]
      have htarget := l.keeps_record (.target arguments)
      split <;> exact htarget.alike _
  | cons e rest ih =>
      rw [List.forall_mem_cons] at h
      obtain ⟨he, hrest⟩ := h
      have hnext : Continuation.Alike l (s.replace arguments (s.runOr f rest))
          (s.replace arguments (s.runOr g rest)) :=
        replace_alike fun others l' hlen hl => ih fun e' he' => hlen ▸ (hrest e' he').later hl
      simp only [runOr]
      split
      · exact (Loom.Keeps.refl l).alike _
      · exact ih hrest
      · next hpass =>
          split
          · next hnone => exact he arguments l _ _ rfl (.refl l) hnext hpass hnone
          · exact Advice.intercept_alike s.target hnext

theorem keeps_run (chain : List ChainElement) (arguments : List Value) (l : Loom) :
    l.Keeps (s.run chain arguments l).2 := by
  rw [← runOr_emptyHanded]
  exact (runOr_alike (f := s.emptyHanded) (g := s.emptyHanded)
    fun e _ _ _ _ _ _ _ hnext _ _ => Advice.intercept_alike s.target hnext).2

end CallSite

end Weaving
