import Mathlib.Data.Set.Card
import Mathlib.Logic.Relation

namespace Weaving

open Relation

variable {α : Type} {r : α → α → Prop} {a b : α}

/-- No way from `a` leads into a circle. -/
def AcyclicFrom (r : α → α → Prop) (a : α) : Prop := ∀ b, ReflTransGen r a b → ¬ TransGen r b b

theorem AcyclicFrom.of_reaches (h : AcyclicFrom r a) (hab : ReflTransGen r a b) : AcyclicFrom r b :=
  fun c hbc => h c (hab.trans hbc)

theorem acyclicFrom_of_acc (h : Acc (fun b c => r c b) a) : AcyclicFrom r a := by
  intro b hab
  have hb : Acc (fun b c => r c b) b := by
    induction hab with
    | refl => exact h
    | tail _ hstep ih => exact ih.inv hstep
  clear hab h
  induction hb with
  | intro b _ ih =>
      intro hcircle
      obtain ⟨c, hbc, hback⟩ := TransGen.head'_iff.1 hcircle
      exact ih c hbc (.tail' hback hbc)

/-- Where only finitely many places can be reached and none of them lies on a circle, every way
ends: with each step fewer places are left to reach. -/
theorem acc_of_acyclicFrom (hfin : {b | ReflTransGen r a b}.Finite) (h : AcyclicFrom r a) :
    Acc (fun b c => r c b) a := by
  induction hn : {b | ReflTransGen r a b}.ncard using Nat.strong_induction_on generalizing a with
  | _ n ih =>
      refine Acc.intro a fun b hab => ?_
      have hsub : {c | ReflTransGen r b c} ⊂ {c | ReflTransGen r a c} := by
        refine ⟨fun c hbc => .head hab hbc, fun hback => ?_⟩
        have hba : ReflTransGen r b a := hback .refl
        exact h a .refl (.head' hab hba)
      have hlt := Set.ncard_lt_ncard hsub hfin
      exact ih _ (hn ▸ hlt) (hfin.subset hsub.subset) (h.of_reaches (.single hab)) rfl

end Weaving
