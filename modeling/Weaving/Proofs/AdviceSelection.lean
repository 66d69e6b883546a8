import Weaving.Aspect.Registry
import Weaving.Proofs.ProxyHistory

namespace Weaving

/-- At one order, one rank goes before the other. -/
def Rank.Tied (a b : Rank) : Prop :=
  a.order = b.order ∧ (a.precedes b = true ∨ b.precedes a = true)

instance (a b : Rank) : Decidable (a.Tied b) :=
  inferInstanceAs (Decidable (a.order = b.order ∧ (a.precedes b = true ∨ b.precedes a = true)))

theorem Rank.order_lt_of_precedes {a b : Rank} (h : a.precedes b = true) (hab : ¬ b.Tied a) :
    a.order < b.order :=
  lt_of_le_of_ne (order_le_of_precedes h) fun ho => hab ⟨ho.symm, .inr h⟩

section Filtering

variable {α : Type} {rank : α → Rank} {keep : α → Bool} {items rest : List α} {a : α}

theorem isFree_mono {others : List α} (hsub : items ⊆ others) (h : isFree rank others a = true) :
    isFree rank items a = true :=
  (isFree_iff rank).2 fun b hb => (isFree_iff rank).1 h b (hsub hb)

/-- The items that are kept and those that are left out have no ties between them. -/
def Separates (rank : α → Rank) (keep : α → Bool) (items : List α) : Prop :=
  ∀ a ∈ items, ∀ b ∈ items, keep a = true → keep b = false → ¬ (rank a).Tied (rank b)

instance : Decidable (Separates rank keep items) :=
  inferInstanceAs (Decidable (∀ a ∈ items, ∀ b ∈ items, keep a = true → keep b = false →
    ¬ (rank a).Tied (rank b)))

theorem Separates.mono {others : List α} (hsub : items ⊆ others)
    (h : Separates rank keep others) : Separates rank keep items :=
  fun a ha b hb => h a (hsub ha) b (hsub hb)

/-- An item that waits for one that is left out also waits for one that is kept, if the
item left out stands behind a kept one by order. -/
theorem Separates.isFree_filter (h : Separates rank keep items) (ha : a ∈ items)
    (hkeep : keep a = true)
    (hbound : ∀ b ∈ items, keep b = false → ∃ c ∈ items, keep c = true ∧ (rank c).order ≤ (rank b).order)
    (hfree : isFree rank items a = false) : isFree rank (items.filter keep) a = false := by
  obtain ⟨b, hb, hp⟩ := (isFree_eq_false_iff rank).1 hfree
  cases hkb : keep b with
  | true => exact (isFree_eq_false_iff rank).2 ⟨b, List.mem_filter.2 ⟨hb, hkb⟩, hp⟩
  | false =>
      obtain ⟨c, hc, hkc, hle⟩ := hbound b hb hkb
      have hlt := hle.trans_lt (Rank.order_lt_of_precedes hp (h a ha b hb hkeep hkb))
      exact (isFree_eq_false_iff rank).2
        ⟨c, List.mem_filter.2 ⟨hc, hkc⟩, Rank.precedes_of_order_lt hlt⟩

/-- In a jam, whatever is left out stands behind a kept item by order: of the items left
out one is free among themselves, and a kept item goes before it. -/
theorem Jammed.exists_kept_le (hjam : Jammed rank items) (h : Separates rank keep items)
    (hleft : ¬ Interleaved rank (items.filter fun b => !keep b)) {b : α} (hb : b ∈ items)
    (hkb : keep b = false) : ∃ c ∈ items, keep c = true ∧ (rank c).order ≤ (rank b).order := by
  have hmem : b ∈ items.filter fun b => !keep b := by simp [hb, hkb]
  obtain ⟨x, hx, hfree⟩ := exists_isFree (List.ne_nil_of_mem hmem) hleft
  obtain ⟨hxi, hkx⟩ := by simpa using hx
  obtain ⟨c, hc, hp⟩ := (isFree_eq_false_iff rank).1 (hjam x hxi)
  have hkc : keep c = true := by
    by_contra hkc
    have hcx := (isFree_iff rank).1 hfree c (by simp [hc, hkc])
    rw [hp] at hcx
    exact Bool.noConfusion hcx
  have hlt := Rank.order_lt_of_precedes hp fun ht => h c hc x hxi hkc hkx ⟨ht.1.symm, ht.2.symm⟩
  exact ⟨c, hc, hkc, hlt.le.trans (order_le_of_isFree rank hfree hmem)⟩

/-- A step that takes a kept item is also the step of the sort without the others. -/
theorem Pick.filter (hpick : Pick rank items a rest) (hkeep : keep a = true)
    (h : Separates rank keep items)
    (hleft : ¬ Interleaved rank (items.filter fun b => !keep b)) :
    Pick rank (items.filter keep) a (rest.filter keep) := by
  cases hpick with
  | free before a behind hbefore hfree =>
      have ha : a ∈ before ++ a :: behind := by simp
      have hnot (b : α) (hb : b ∈ before) (hkb : keep b = true) :
          isFree rank ((before ++ a :: behind).filter keep) b = false :=
        h.isFree_filter (by simp [hb]) hkb
          (fun c hc _ => ⟨a, ha, hkeep, order_le_of_isFree rank hfree hc⟩) (hbefore b hb)
      have hyes : isFree rank ((before ++ a :: behind).filter keep) a = true :=
        isFree_mono (fun b hb => List.mem_of_mem_filter hb) hfree
      simp only [List.filter_append, List.filter_cons_of_pos hkeep] at hnot hyes ⊢
      exact .free _ a _ (fun b hb => hnot b (List.mem_of_mem_filter hb) (List.of_mem_filter hb)) hyes
  | jam a rest hjam =>
      rw [List.filter_cons_of_pos hkeep]
      refine .jam a _ fun b hb => ?_
      rw [← List.filter_cons_of_pos hkeep] at hb ⊢
      obtain ⟨hb, hkb⟩ := List.mem_filter.1 hb
      exact h.isFree_filter hb hkb (fun c hc hkc => hjam.exists_kept_le h hleft hc hkc) (hjam b hb)

/-- A step that takes an item that is left out changes nothing for the others. -/
theorem Pick.filter_of_left_out (hpick : Pick rank items a rest) (hkeep : keep a = false) :
    items.filter keep = rest.filter keep := by
  cases hpick with
  | free before a behind => simp [hkeep]
  | jam a rest => simp [hkeep]

/-- Sorting and leaving items out can change places, if no item left out is tied to one that
is kept and those left out do not go in a circle. -/
theorem filter_sortByPrecedence (h : Separates rank keep items)
    (hleft : ¬ Interleaved rank (items.filter fun b => !keep b)) :
    (sortByPrecedence rank items).filter keep = sortByPrecedence rank (items.filter keep) := by
  induction items using pick_induction rank with
  | nil => simp [sortByPrecedence]
  | pick items a rest hpick ih =>
      have hsub : rest ⊆ items := fun b hb => hpick.perm.symm.subset (List.mem_cons_of_mem a hb)
      have hout : (rest.filter fun b => !keep b) ⊆ items.filter fun b => !keep b := by
        intro b hb
        rw [List.mem_filter] at hb ⊢
        exact ⟨hsub hb.1, hb.2⟩
      have hrest := ih (h.mono hsub) fun hi => hleft (hi.mono hout)
      rw [hpick.sortByPrecedence_eq]
      cases hkeep : keep a with
      | true =>
          rw [List.filter_cons_of_pos hkeep, (hpick.filter hkeep h hleft).sortByPrecedence_eq, hrest]
      | false =>
          rw [List.filter_cons_of_neg (by simp [hkeep]), hpick.filter_of_left_out hkeep, hrest]

end Filtering

/-- The advisors in the chain of a method. -/
def Proxy.advisorsFor (p : Proxy) (method : Method) (l : Loom) : List Advisor :=
  (p.chainFor method l).1.map ChainElement.advisor

namespace Registry

/-- The advisors that a proxy of the type is built with. -/
def concerned (r : Registry) (targetType : TypeInfo) : List Advisor :=
  r.advisors.filter fun a => a.advice.pointcut.root.classFilter.accepts targetType

variable (r : Registry) (l : Loom) (targetType : TypeInfo) (target : Option Target) (method : Method)

theorem filter_concerned :
    (r.concerned targetType).filter (Proxy.applies l method targetType) =
      r.advisors.filter (Proxy.applies l method targetType) := by
  rw [concerned, List.filter_filter]
  refine List.filter_congr fun a _ => ?_
  cases h : Proxy.applies l method targetType a with
  | false => rfl
  | true => simp [Proxy.accepts_of_applies h]

theorem advisorsFor_proxy :
    (r.proxy targetType target).advisorsFor method l =
      (sortByPrecedence Advisor.rank (r.concerned targetType)).filter
        (Proxy.applies l method targetType) := by
  simp only [Proxy.advisorsFor, proxy, Proxy.build, Proxy.chainFor, Proxy.cached?, List.find?_nil,
    Option.map_none, Proxy.freshChain, List.map_map, concerned]
  exact List.map_id _

theorem eligibleAdvisors_eq :
    r.eligibleAdvisors method targetType l =
      sortByPrecedence Advisor.rank
        ((r.concerned targetType).filter (Proxy.applies l method targetType)) := by
  rw [filter_concerned, eligibleAdvisors]

/-- The chain of a method has the eligible advisors. Where no advice goes in a circle, both lists
go by precedence. They are the same list if the advice that does not apply to the method is
not tied to the advice that does, and does not go in a circle. -/
theorem advisorsFor_selects_eligibleAdvisors (r : Registry) (l : Loom) (targetType : TypeInfo)
    (target : Option Target) (method : Method) :
    ((r.proxy targetType target).advisorsFor method l).Perm (r.eligibleAdvisors method targetType l) ∧
      (¬ Interleaved Advisor.rank (r.concerned targetType) →
        ByPrecedence Advisor.rank ((r.proxy targetType target).advisorsFor method l) ∧
          ByPrecedence Advisor.rank (r.eligibleAdvisors method targetType l)) ∧
      (Separates Advisor.rank (Proxy.applies l method targetType) (r.concerned targetType) →
        ¬ Interleaved Advisor.rank
          ((r.concerned targetType).filter fun a => !Proxy.applies l method targetType a) →
        (r.proxy targetType target).advisorsFor method l = r.eligibleAdvisors method targetType l) := by
  rw [advisorsFor_proxy, eligibleAdvisors_eq]
  refine ⟨?_, fun h => ⟨?_, ?_⟩, fun hsep hleft => filter_sortByPrecedence hsep hleft⟩
  · exact ((sortByPrecedence_perm _).filter _).trans (sortByPrecedence_perm _).symm
  · exact (sortByPrecedence_byPrecedence h).filter _
  · have hsub : (r.concerned targetType).filter (Proxy.applies l method targetType) ⊆
        r.concerned targetType := fun a ha => List.mem_of_mem_filter ha
    exact sortByPrecedence_byPrecedence fun hi => h (hi.mono hsub)

/-- Advice of an aspect of its own that does not apply leaves the order as it is. -/
theorem advisorsFor_eq_eligibleAdvisors_beside_audit :
    let (_, r, l) := standard.registerAll
      [.idle "audit" 10 [("leave", "After", "execution(* save(..))")],
        .idle "logging" 10 [("enter", "Before", "execution(* find(..))")],
        .idle "security" 10 [("check", "Before", "execution(* find(..))")]] (.empty 0)
    let method : Method := ⟨.ofName "Orders", "find", [], none⟩
    let chain := (r.proxy method.owner none).advisorsFor method l
    (r.concerned method.owner).map Advisor.label = ["audit.leave", "logging.enter", "security.check"] ∧
      chain.map Advisor.label = ["logging.enter", "security.check"] ∧
      chain = r.eligibleAdvisors method method.owner l :=
  ⟨by decide +kernel, by decide +kernel,
    (advisorsFor_selects_eligibleAdvisors _ _ _ _ _).2.2 (by decide +kernel) (by decide +kernel)⟩

/-- Two orders of the same advice. `leave` does not apply to the method, but by its place in
its aspect `enter` waits for it in the chain, and lets `check` go ahead. -/
theorem advisorsFor_ne_eligibleAdvisors :
    let (_, r, l) := standard.registerAll
      [.idle "logging" 10 [("enter", "Before", "execution(* find(..))")],
        .idle "security" 10 [("check", "Before", "execution(* find(..))")],
        .idle "logging" 10 [("pad", "Inline", ""), ("leave", "After", "execution(* save(..))")]]
      (.empty 0)
    let method : Method := ⟨.ofName "Orders", "find", [], none⟩
    let chain := (r.proxy method.owner none).advisorsFor method l
    chain.map Advisor.label = ["security.check", "logging.enter"] ∧
      (r.eligibleAdvisors method method.owner l).map Advisor.label =
        ["logging.enter", "security.check"] := by
  decide +kernel

end Registry

end Weaving
