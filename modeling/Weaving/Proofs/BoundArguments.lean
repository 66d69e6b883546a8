import Weaving.Proofs.NameLists
import Weaving.Proofs.PlanIndices

namespace Weaving

namespace Captures

/-- Each captured value is one that the formal parameter of its name admits. -/
def Admitted (formals : Formals) (c : Captures) : Prop :=
  ∀ e ∈ c.entries, ∃ type, formals.typeOf? e.1 = some type ∧ type.admits e.2 = true

variable {formals : Formals} {c d : Captures} {name : String} {v : Value} {type : ParameterType}

theorem admitted_empty (formals : Formals) : empty.Admitted formals := nofun

theorem Admitted.insert (h : c.Admitted formals) (htype : formals.typeOf? name = some type)
    (hv : type.admits v = true) : (c.insert name v).Admitted formals := by
  intro e he
  rcases List.mem_cons.1 he with rfl | he
  · exact ⟨type, htype, hv⟩
  · exact h e (List.mem_of_mem_filter he)

theorem Admitted.merge (hc : c.Admitted formals) (hd : d.Admitted formals) :
    (c.merge d).Admitted formals := by
  obtain ⟨entries⟩ := d
  induction entries with
  | nil => exact hc
  | cons e rest ih =>
      obtain ⟨type, htype, hv⟩ := hd e List.mem_cons_self
      exact (ih fun e he => hd e (List.mem_cons_of_mem _ he)).insert htype hv

theorem Admitted.get? (h : c.Admitted formals) (hv : c.get? name = some v) :
    ∃ type, formals.typeOf? name = some type ∧ type.admits v = true :=
  h _ (mem_of_lookup hv)

end Captures

namespace Expr

variable {formals : Formals} {method : Method} {target : TypeInfo} {args : List Value} {c : Captures}

theorem captureArgs_admitted {pairs : List (ArgPattern × Nat)} (h : c.Admitted formals) :
    (captureArgs formals method args pairs c).2.Admitted formals := by
  induction pairs generalizing c with
  | nil => exact h
  | cons pair rest ih =>
      obtain ⟨pattern, index⟩ := pair
      cases pattern with
      | any | ellipsis => exact ih h
      | named name =>
          simp only [captureArgs]
          split
          · exact h
          · split
            · next htype =>
                split
                · next hadmits => exact ih (h.insert htype hadmits)
                · exact h
            · split
              · exact ih h
              · exact h

theorem matchArgs_admitted {patterns : List ArgPattern} (h : c.Admitted formals) :
    (matchArgs patterns formals method args c).2.Admitted formals := by
  simp only [matchArgs]
  split
  · exact h
  · exact captureArgs_admitted h

theorem run_admitted (e : Expr) (h : c.Admitted formals) :
    (e.run formals method target args c).2.Admitted formals := by
  induction e generalizing c with
  | execution | within | not => exact h
  | args source patterns => exact matchArgs_admitted h
  | and l r ihl ihr =>
      have hl := ihl h
      simp only [run]
      split
      · next heq =>
          rw [heq] at hl
          exact ihr hl
      · next heq => rwa [heq] at hl
  | or l r ihl ihr =>
      have hl := ihl (Captures.admitted_empty formals)
      have hr := ihr (Captures.admitted_empty formals)
      simp only [run]
      split
      · next heq =>
          rw [heq] at hl
          exact h.merge hl
      · split
        · next heq =>
            rw [heq] at hr
            exact h.merge hr
        · exact h

/-- What a match captures for a formal parameter is of its type. -/
theorem captures?_admitted {e : Expr} (h : e.captures? formals method target args = some c) :
    c.Admitted formals := by
  have hrun : (e.run formals method target args .empty).2.Admitted formals :=
    e.run_admitted (Captures.admitted_empty formals)
  simp only [captures?] at h
  split at h
  · next heq =>
      cases h
      rwa [heq] at hrun
  · cases h

end Expr

/-- Where names are different, each has the type beside it. -/
theorem Formals.typeOf?_map {slots : List NamedSlot} (h : (slots.map NamedSlot.name).Nodup) {slot : NamedSlot}
    (hslot : slot ∈ slots) :
    Formals.typeOf? ⟨slots.map NamedSlot.name, slots.map NamedSlot.type⟩ slot.name = some slot.type := by
  induction slots with
  | nil => cases hslot
  | cons first rest ih =>
      rw [List.map_cons, List.nodup_cons] at h
      rw [typeOf?, List.map_cons, List.map_cons, List.idxOf?_cons]
      rcases List.mem_cons.1 hslot with rfl | hslot
      · simp
      · have hne : (first.name == slot.name) = false := by
          rw [beq_eq_false_iff_ne]
          intro heq
          exact h.1 (heq ▸ List.mem_map_of_mem hslot)
        have hrest := ih h.2 hslot
        rw [typeOf?] at hrest
        rw [hne, if_neg Bool.false_ne_true, Option.bind_map]
        exact hrest

namespace BindingPlan

variable {p : BindingPlan} {context : JoinPoint} {args : Arguments}

theorem map_filterMap_sublist {α β γ δ : Type} (f : α → γ) (g : α → Option β) (k : β → δ) (l : List α) :
    ((l.filterMap fun a => (g a).map fun b => (f a, k b)).map Prod.fst).Sublist (l.map f) := by
  induction l with
  | nil => exact .slnil
  | cons a rest ih =>
      rw [List.filterMap_cons, List.map_cons]
      cases g a with
      | none => exact ih.cons _
      | some b => exact ih.cons_cons _

theorem filterMap_range {α : Type} {f : Nat → Option α} {n : Nat} (h : ∀ i < n, (f i).isSome = true) :
    ((List.range n).filterMap f).length = n ∧
      ∀ i a, ((List.range n).filterMap f)[i]? = some a → f i = some a := by
  induction n with
  | zero => exact ⟨rfl, nofun⟩
  | succ n ih =>
      obtain ⟨hlength, hget⟩ := ih fun i hi => h i (Nat.lt_succ_of_lt hi)
      obtain ⟨last, hlast⟩ := Option.isSome_iff_exists.1 (h n n.lt_succ_self)
      have hsplit : (List.range (n + 1)).filterMap f = (List.range n).filterMap f ++ [last] := by
        simp [List.range_succ, hlast]
      rw [hsplit]
      refine ⟨by rw [List.length_append, hlength, List.length_singleton], fun i a hi => ?_⟩
      rcases Nat.lt_trichotomy i n with hlt | rfl | hgt
      · rw [List.getElem?_append_left (by omega)] at hi
        exact hget i a hi
      · rw [List.getElem?_append_right (by omega), hlength, Nat.sub_self] at hi
        exact hlast.trans hi
      · rw [List.getElem?_eq_none (by simp [hlength]; omega)] at hi
        cases hi

/-- Only parameters of the plan are supplied, and none of them more often than the plan says. -/
theorem supplied_sublist : ((p.supplied context).map Prod.fst).Sublist p.indices := by
  simp only [supplied, indices, bound, List.map_append, ← List.append_assoc]
  refine ((List.Sublist.append ?_ ?_).append ?_).append ?_
  · rw [offset]
    cases p.joinPoint with
    | none => exact .slnil
    | some slot => cases slot <;> exact .refl _
  · cases context.captured with
    | none => exact List.nil_sublist _
    | some c =>
        exact map_filterMap_sublist Prod.snd (fun e => c.get? e.1) Argument.value p.bindings
  · cases p.returning <;> cases context.returnValue <;> simp
  · cases p.throwing <;> cases context.thrown <;> simp

/-- Where an argument comes from. -/
inductive Supplies (p : BindingPlan) (context : JoinPoint) : Nat → Argument → Prop
  | joinPoint (h : p.joinPoint = some .joinPoint) : Supplies p context 0 (.joinPoint context)
  | proceeding (h : p.joinPoint = some .proceeding) : Supplies p context 0 (.proceeding context)
  | staticPart (h : p.joinPoint = some .staticPart) : Supplies p context 0 (.staticPart context.method)
  | captured {name : String} {index : Nat} {c : Captures} {v : Value} (hbinding : (name, index) ∈ p.bindings)
      (hc : context.captured = some c) (hv : c.get? name = some v) : Supplies p context index (.value v)
  | returned {slot : NamedSlot} {v : Value} (hslot : p.returning = some slot)
      (hv : context.returnValue = some v) : Supplies p context slot.index (.value v)
  | thrown {slot : NamedSlot} {e : Thrown} (hslot : p.throwing = some slot)
      (he : context.thrown = some e) : Supplies p context slot.index (.error e)

theorem supplies_of_mem {i : Nat} {arg : Argument} (h : (i, arg) ∈ p.supplied context) :
    p.Supplies context i arg := by
  simp only [supplied, List.mem_append, or_assoc] at h
  rcases h with h | h | h | h
  · split at h
    · cases h
    · next hj =>
        cases List.mem_singleton.1 h
        exact .joinPoint hj
    · next hj =>
        cases List.mem_singleton.1 h
        exact .proceeding hj
    · next hj =>
        cases List.mem_singleton.1 h
        exact .staticPart hj
  · split at h
    · cases h
    · next c hc =>
        obtain ⟨⟨name, index⟩, hbinding, hsome⟩ := List.mem_filterMap.1 h
        obtain ⟨v, hv, heq⟩ := Option.map_eq_some_iff.1 hsome
        cases heq
        exact .captured hbinding hc hv
  · split at h
    · next hslot hv =>
        cases List.mem_singleton.1 h
        exact .returned hslot hv
    · cases h
  · split at h
    · next hslot he =>
        cases List.mem_singleton.1 h
        exact .thrown hslot he
    · cases h

/-- There is an argument for each parameter, and each argument is supplied to its parameter. -/
theorem bind_eq_ok (hindices : p.indices.Subperm (List.range p.parameterCount))
    (h : p.bind context = .ok args) : args.length = p.parameterCount ∧
      ∀ (i : Nat) (arg : Argument), args[i]? = some arg → p.Supplies context i arg := by
  simp only [bind] at h
  split at h
  · next hlength =>
      obtain rfl := Except.ok.inj h
      -- As many parameters are supplied as there are, and none twice, so each one is.
      have hsub : ((p.supplied context).map Prod.fst).Subperm (List.range p.parameterCount) :=
        supplied_sublist.subperm.trans hindices
      have hperm : ((p.supplied context).map Prod.fst).Perm (List.range p.parameterCount) :=
        hsub.perm_of_length_le (by simp [hlength])
      have hlookup : ∀ i < p.parameterCount, ((p.supplied context).lookup i).isSome = true := by
        intro i hi
        obtain ⟨e, he, rfl⟩ := List.mem_map.1 (hperm.mem_iff.2 (List.mem_range.2 hi))
        by_contra hnone
        rw [Bool.not_eq_true, Option.isSome_eq_false_iff, Option.isNone_iff_eq_none] at hnone
        simpa using List.lookup_eq_none_iff.1 hnone e he
      obtain ⟨hlen, hget⟩ := filterMap_range hlookup
      exact ⟨hlen, fun i arg hi => supplies_of_mem (mem_of_lookup (hget i arg hi))⟩
  · cases h

theorem exists_binding_of_bind {e : EngineError} (h : p.bind context = .error e) :
    ∃ reason, e = .binding reason := by
  rw [bind] at h
  split at h
  · cases h
  · exact ⟨_, (Except.error.inj h).symm⟩

end BindingPlan

end Weaving
