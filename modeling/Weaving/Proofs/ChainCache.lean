import Weaving.Proofs.ProxyHistory

namespace Weaving

/-- The type without its supertypes. -/
def TypeInfo.bare (t : TypeInfo) : TypeInfo := { t with supertypes := [] }

/-- The method without the supertypes of its types. -/
def Method.bare (m : Method) : Method :=
  ⟨m.owner.bare, m.name, m.parameters.map TypeInfo.bare, m.returns.map TypeInfo.bare⟩

theorem TypeInfo.beq_iff_bare {t u : TypeInfo} : (t == u) = true ↔ t.bare = u.bare := by
  change (t.name == u.name && t.runtime == u.runtime) = true ↔ _
  simp [bare]

theorem TypeInfo.beq_list_iff_bare {ts us : List TypeInfo} :
    (ts == us) = true ↔ ts.map TypeInfo.bare = us.map TypeInfo.bare := by
  induction ts generalizing us with
  | nil => cases us <;> simp
  | cons t ts ih =>
      cases us with
      | nil => simp
      | cons u us =>
          simp only [List.cons_beq_cons, Bool.and_eq_true, TypeInfo.beq_iff_bare, ih, List.map_cons,
            List.cons.injEq]

theorem TypeInfo.beq_option_iff_bare {t u : Option TypeInfo} :
    (t == u) = true ↔ t.map TypeInfo.bare = u.map TypeInfo.bare := by
  cases t <;> cases u <;> simp [TypeInfo.beq_iff_bare]

/-- Methods count as equal whatever supertypes their types have. -/
theorem Method.beq_iff_bare {m n : Method} : (m == n) = true ↔ m.bare = n.bare := by
  obtain ⟨owner, name, parameters, returns⟩ := m
  obtain ⟨owner', name', parameters', returns'⟩ := n
  change (owner == owner' && (name == name' && (parameters == parameters' && returns == returns'))) = true ↔ _
  simp [bare, TypeInfo.beq_iff_bare, TypeInfo.beq_list_iff_bare, TypeInfo.beq_option_iff_bare]

instance : PartialEquivBEq Method where
  symm h := Method.beq_iff_bare.2 (Method.beq_iff_bare.1 h).symm
  trans h h' := Method.beq_iff_bare.2 ((Method.beq_iff_bare.1 h).trans (Method.beq_iff_bare.1 h'))

/-- The first of the methods that counts as equal to the given one, or that one itself. -/
def firstAsked (methods : List Method) (method : Method) : Method :=
  (methods.find? (· == method)).getD method

theorem firstAsked_beq (methods : List Method) (method : Method) :
    (firstAsked methods method == method) = true := by
  rw [firstAsked]
  cases hfirst : methods.find? (· == method) with
  | none => exact BEq.rfl
  | some first => simpa using List.find?_some hfirst

namespace Proxy

/-- What a proxy goes through as it is asked for chains and its methods are called, with the
methods that it was asked for or called with, oldest first. -/
inductive Asked (p : Proxy) (l : Loom) : List Method → Proxy → Loom → Prop
  | nothing : Asked p l [] p l
  | elsewhere {methods : List Method} {q : Proxy} {l₁ l₂ : Loom} (h : Asked p l methods q l₁)
      (hl : l₁.Keeps l₂) : Asked p l methods q l₂
  | chainFor {methods : List Method} {q : Proxy} {l₁ : Loom} (h : Asked p l methods q l₁)
      (method : Method) : Asked p l (methods ++ [method]) (q.chainFor method l₁).2 l₁
  | invoke {methods : List Method} {q : Proxy} {l₁ : Loom} (h : Asked p l methods q l₁)
      (method : Method) (arguments : List Value) (respond : List Value → Except Thrown (Option Value)) :
      Asked p l (methods ++ [method]) (q.invoke method arguments respond l₁).2.1
        (q.invoke method arguments respond l₁).2.2

/-- The later proxy has the chains that were put together for the first of equal methods. -/
structure Remembers (p : Proxy) (l : Loom) (methods : List Method) (q : Proxy) : Prop where
  targetType_eq : q.targetType = p.targetType
  advisors_eq : q.advisors = p.advisors
  cached?_eq : ∀ method, q.cached? method = (methods.find? (· == method)).map fun m => p.freshChain m l

variable {l l' : Loom} {p q : Proxy} {methods : List Method}

theorem remembers_nothing (hp : p.chains = []) : p.Remembers l [] p where
  targetType_eq := rfl
  advisors_eq := rfl
  cached?_eq _ := by simp [cached?, hp]

theorem cached?_cons (method first : Method) (chain : List ChainElement) :
    ({ q with chains := (first, chain) :: q.chains } : Proxy).cached? method =
      if first == method then some chain else q.cached? method := by
  simp only [cached?, List.find?_cons]
  cases first == method <;> rfl

/-- The plans of the advisors are made, so a chain comes out the same whenever it is put together. -/
theorem Remembers.freshChain_eq (h : p.Remembers l methods q) (hr : ∀ a ∈ p.advisors, a.Returned l)
    (hl : l.Keeps l') (method : Method) : q.freshChain method l' = p.freshChain method l := by
  have happlies : ∀ a ∈ p.advisors, applies l' method p.targetType a = applies l method p.targetType a := by
    intro a ha
    rw [applies, applies, (hr a ha).pointcut_eq hl]
  rw [freshChain, freshChain, h.advisors_eq, h.targetType_eq, List.filter_congr happlies]
  refine List.map_congr_left fun a ha => ?_
  rw [(hr a (List.mem_of_mem_filter ha)).pointcut_eq hl]

theorem Remembers.chainFor_eq (h : p.Remembers l methods q) (hr : ∀ a ∈ p.advisors, a.Returned l)
    (hl : l.Keeps l') (method : Method) :
    (q.chainFor method l').1 = p.freshChain (firstAsked methods method) l := by
  simp only [chainFor, h.cached?_eq, firstAsked]
  cases methods.find? (· == method) with
  | none => exact h.freshChain_eq hr hl method
  | some first => rfl

/-- A method that is asked for again adds nothing: an equal one stands before it in the history. -/
theorem find?_append_of_asked {first method other : Method} (hfirst : methods.find? (· == method) = some first) :
    (methods ++ [method]).find? (· == other) = methods.find? (· == other) := by
  rw [List.find?_append]
  cases hother : methods.find? (· == other) with
  | some _ => rfl
  | none =>
      have hmem := List.mem_of_find?_eq_some hfirst
      have hne : (method == other) = false := by
        rw [← BEq.congr_left (by simpa using List.find?_some hfirst)]
        simpa using List.find?_eq_none.1 hother first hmem
      simp [hne]

theorem find?_append_of_not_asked {method : Method} (hnone : methods.find? (· == method) = none)
    (other : Method) : (methods ++ [method]).find? (· == other) =
      if method == other then some method else methods.find? (· == other) := by
  rw [List.find?_append]
  cases heq : method == other with
  | false => simp [heq]
  | true =>
      have hother : methods.find? (· == other) = none := by
        rw [List.find?_eq_none] at hnone ⊢
        intro m hm
        rw [← BEq.congr_right heq]
        exact hnone m hm
      simp [hother, heq]

theorem Remembers.chainFor (h : p.Remembers l methods q) (hr : ∀ a ∈ p.advisors, a.Returned l)
    (hl : l.Keeps l') (method : Method) :
    p.Remembers l (methods ++ [method]) (q.chainFor method l').2 := by
  simp only [Proxy.chainFor, h.cached?_eq]
  cases hfirst : methods.find? (· == method) with
  | some first =>
      refine ⟨h.targetType_eq, h.advisors_eq, fun other => ?_⟩
      rw [find?_append_of_asked hfirst]
      exact h.cached?_eq other
  | none =>
      refine ⟨h.targetType_eq, h.advisors_eq, fun other => ?_⟩
      rw [find?_append_of_not_asked hfirst]
      simp only [Option.map_none, cached?_cons, h.cached?_eq]
      split
      · rw [h.freshChain_eq hr hl, Option.map_some]
      · rfl

theorem Asked.remembers (h : p.Asked l methods q l') (hp : p.chains = [])
    (hr : ∀ a ∈ p.advisors, a.Returned l) : l.Keeps l' ∧ p.Remembers l methods q := by
  induction h with
  | nothing => exact ⟨.refl l, remembers_nothing hp⟩
  | elsewhere _ hl ih => exact ⟨ih.1.trans hl, ih.2⟩
  | chainFor _ method ih => exact ⟨ih.1, ih.2.chainFor hr ih.1 method⟩
  | invoke _ method arguments respond ih =>
      exact ⟨ih.1.trans (CallSite.keeps_run _ arguments _), ih.2.chainFor hr ih.1 method⟩

/-- Whatever the proxy goes through, it answers with the chains that it would put together afresh. -/
def CacheTransparent (p : Proxy) (l : Loom) : Prop :=
  ∀ methods q l', p.Asked l methods q l' → ∀ method, (q.chainFor method l').1 = q.freshChain method l'

/-- The chain of a method is the one put together for the first equal method that the proxy was
asked for. So it does not show that chains are kept exactly if equal methods, whose types may
differ in their supertypes, have the same chain. -/
theorem chainFor_eq_freshChain_firstAsked (l : Loom) (targetType : TypeInfo) (target : Option Target)
    (advisors : List Advisor) (hr : ∀ a ∈ advisors, a.Returned l) :
    let p := build targetType target advisors
    (∀ methods q l', p.Asked l methods q l' → ∀ method,
      (q.chainFor method l').1 = q.freshChain (firstAsked methods method) l') ∧
    (p.CacheTransparent l ↔
      ∀ first method, (first == method) = true → p.freshChain first l = p.freshChain method l) := by
  intro p
  have hrp : ∀ a ∈ p.advisors, a.Returned l := fun a ha =>
    hr a ((build_serves l targetType target advisors).advisors_subset ha)
  have hlaw : ∀ methods q l', p.Asked l methods q l' → ∀ method,
      (q.chainFor method l').1 = q.freshChain (firstAsked methods method) l' := by
    intro methods q l' h method
    obtain ⟨hl, hq⟩ := h.remembers rfl hrp
    rw [hq.chainFor_eq hrp hl, hq.freshChain_eq hrp hl]
  refine ⟨hlaw, ?_, ?_⟩
  · intro h first method heq
    have hasked : p.Asked l [first] (p.chainFor first l).2 l := .chainFor .nothing first
    obtain ⟨hl, hq⟩ := hasked.remembers rfl hrp
    have hchain := h _ _ _ hasked method
    rw [hlaw _ _ _ hasked, hq.freshChain_eq hrp hl, hq.freshChain_eq hrp hl] at hchain
    simpa [firstAsked, heq] using hchain
  · intro h methods q l' hasked method
    obtain ⟨hl, hq⟩ := hasked.remembers rfl hrp
    rw [hlaw _ _ _ hasked, hq.freshChain_eq hrp hl, hq.freshChain_eq hrp hl]
    exact h _ _ (firstAsked_beq methods method)

/-- A note is saved as a plain note first. From then on the advice on secrets is left out for notes
that are secrets. -/
theorem chain_of_plain_note_kept :
    let guard := AspectDefinition.idle "guard" 0 [("check", "Before", "execution(* save(Secret))")]
    let given := guard.advisors (guard.factory (.empty 0)).1 (.standard true) (.empty 0)
    let advisors := given.1.toOption.getD []
    let save (supertypes : List String) : Method :=
      ⟨.ofName "Vault", "save", [⟨"Note", none, supertypes⟩], none⟩
    let p := build (.ofName "Vault") none advisors
    (∀ a ∈ advisors, a.Returned given.2) ∧ ¬ p.CacheTransparent given.2 ∧
      ((p.chainFor (save []) given.2).2.chainFor (save ["Secret"]) given.2).1 = [] ∧
      (p.freshChain (save ["Secret"]) given.2).map (·.advisor.label) = ["guard.check"] := by
  intro guard given advisors save p
  have hr := guard.returned_of_advisors (guard.factory (.empty 0)).1 (.standard true) (.empty 0)
  obtain ⟨hlaw, hiff⟩ := chainFor_eq_freshChain_firstAsked given.2 (.ofName "Vault") none advisors hr
  have hasked : p.Asked given.2 [save []] (p.chainFor (save []) given.2).2 given.2 :=
    .chainFor .nothing (save [])
  have hsecret : (p.freshChain (save ["Secret"]) given.2).map (·.advisor.label) = ["guard.check"] := by
    decide +kernel
  have hplain : p.freshChain (save []) given.2 = [] := List.length_eq_zero_iff.1 (by decide +kernel)
  refine ⟨hr, fun h => ?_, ?_, hsecret⟩
  · rw [← hiff.1 h (save []) (save ["Secret"]) rfl, hplain] at hsecret
    exact List.cons_ne_nil _ _ hsecret.symm
  · rw [hlaw _ _ _ hasked (save ["Secret"])]
    exact hplain

end Proxy

end Weaving
