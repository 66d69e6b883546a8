import Mathlib.Data.List.TakeDrop
import Weaving.Expression.ExpressionPointcut

namespace Weaving

namespace ArgPattern

def formal? (formals : Formals) : ArgPattern → Option String
  | named pattern => if (formals.typeOf? pattern.text).isSome then some pattern.text else none
  | _ => none

theorem formal?_eq_some {formals : Formals} {pattern : ArgPattern} {name : String}
    (h : pattern.formal? formals = some name) :
    pattern = named ⟨name⟩ ∧ (formals.typeOf? name).isSome = true := by
  cases pattern with
  | any | ellipsis => cases h
  | named pattern =>
      rw [formal?] at h
      split at h
      · next hformal =>
          obtain rfl := Option.some.inj h
          exact ⟨rfl, hformal⟩
      · cases h

theorem exists_mem_zipIdx {α : Type} {l : List α} {a : α} (h : a ∈ l) (k : Nat) :
    ∃ i, (a, i) ∈ l.zipIdx k := by
  rw [← List.zipIdx_map_fst k l] at h
  obtain ⟨⟨b, i⟩, he, rfl⟩ := List.mem_map.1 h
  exact ⟨i, he⟩

theorem exists_mem_align {patterns : List ArgPattern} {count : Nat} {pairs : List (ArgPattern × Nat)}
    {pattern : NamePattern} (h : align patterns count = some pairs) (hmem : named pattern ∈ patterns) :
    ∃ i, (named pattern, i) ∈ pairs := by
  simp only [align, List.span_eq_takeWhile_dropWhile] at h
  rw [← List.takeWhile_append_dropWhile (p := (· != ellipsis)) (l := patterns)] at hmem
  cases hrest : patterns.dropWhile (· != ellipsis) with
  | nil =>
      rw [hrest] at h hmem
      simp only [Option.ite_none_right_eq_some, Option.some.injEq] at h
      obtain ⟨-, rfl⟩ := h
      have hall := List.takeWhile_append_dropWhile (p := (· != ellipsis)) (l := patterns)
      rw [hrest] at hall
      rw [hall] at hmem
      exact exists_mem_zipIdx hmem 0
  | cons e after =>
      have he : e = ellipsis := by
        have hhead := List.head?_dropWhile_not (· != ellipsis) patterns
        rw [hrest] at hhead
        simpa using hhead
      rw [hrest] at h hmem
      simp only [Option.ite_none_left_eq_some, Option.some.injEq] at h
      obtain ⟨-, rfl⟩ := h
      rcases List.mem_append.1 hmem with hbefore | hafter
      · obtain ⟨i, hi⟩ := exists_mem_zipIdx hbefore 0
        exact ⟨i, List.mem_append_left _ hi⟩
      · rcases List.mem_cons.1 hafter with rfl | hafter
        · cases he
        · obtain ⟨i, hi⟩ := exists_mem_zipIdx hafter (count - after.length)
          exact ⟨i, List.mem_append_right _ hi⟩

end ArgPattern

namespace Captures

variable {c c' d : Captures} {new new' : String → Value → Prop} {name : String} {v : Value}

/-- A later table: it has each name that the earlier one has, and what it has besides is new. -/
structure Grows (new : String → Value → Prop) (c c' : Captures) : Prop where
  keeps : ∀ name, (c.get? name).isSome = true → (c'.get? name).isSome = true
  draws : ∀ name v, c'.get? name = some v → c.get? name = some v ∨ new name v

theorem Grows.refl (new : String → Value → Prop) (c : Captures) : c.Grows new c :=
  ⟨fun _ h => h, fun _ _ h => .inl h⟩

theorem Grows.trans (h : c.Grows new c') (h' : c'.Grows new d) : c.Grows new d := by
  constructor
  · intro name hname
    exact h'.keeps name (h.keeps name hname)
  · intro name v hv
    rcases h'.draws name v hv with hv | hnew
    · exact h.draws name v hv
    · exact .inr hnew

theorem Grows.mono (h : c.Grows new c') (hnew : ∀ name v, new name v → new' name v) : c.Grows new' c' :=
  ⟨h.keeps, fun name v hv => (h.draws name v hv).imp_right (hnew name v)⟩

theorem grows_insert (c : Captures) (h : new name v) : c.Grows new (c.insert name v) := by
  constructor
  · intro other hother
    rw [get?_insert]
    split
    · rfl
    · exact hother
  · intro other w hw
    rw [get?_insert] at hw
    split at hw
    · next heq =>
        obtain rfl := Option.some.inj hw
        rw [heq]
        exact .inr h
    · exact .inl hw

theorem grows_merge (c : Captures) (h : empty.Grows new d) : c.Grows new (c.merge d) := by
  constructor
  · intro name hname
    simp [get?_merge, hname]
  · intro name v hv
    rw [get?_merge, Option.or_eq_some_iff] at hv
    rcases hv with hv | ⟨-, hv⟩
    · rcases h.draws name v hv with hv | hnew
      · cases hv
      · exact .inr hnew
    · exact .inl hv

end Captures

namespace Expr

variable {formals : Formals} {method : Method} {target : TypeInfo} {args : List Value} {c c' : Captures}

/-- The formal parameters that are captured whenever the expression matches. -/
def definite (formals : Formals) : Expr → List String
  | execution _ | within _ | not _ => []
  | .args _ patterns => patterns.filterMap (ArgPattern.formal? formals)
  | and left right => left.definite formals ++ right.definite formals
  | or left right => (left.definite formals).filter (right.definite formals).contains

/-- Outside negations an argument list pairs the name with the argument at the index. -/
inductive Aligns (count : Nat) : Expr → String → Nat → Prop
  | args {source : String} {patterns : List ArgPattern} {pairs : List (ArgPattern × Nat)}
      {name : String} {i : Nat} (halign : ArgPattern.align patterns count = some pairs)
      (hmem : (.named ⟨name⟩, i) ∈ pairs) : Aligns count (.args source patterns) name i
  | andLeft {left right : Expr} {name : String} {i : Nat} (h : Aligns count left name i) :
      Aligns count (.and left right) name i
  | andRight {left right : Expr} {name : String} {i : Nat} (h : Aligns count right name i) :
      Aligns count (.and left right) name i
  | orLeft {left right : Expr} {name : String} {i : Nat} (h : Aligns count left name i) :
      Aligns count (.or left right) name i
  | orRight {left right : Expr} {name : String} {i : Nat} (h : Aligns count right name i) :
      Aligns count (.or left right) name i

/-- A formal parameter takes an argument at one of the given places. -/
def Takes (formals : Formals) (args : List Value) (places : String → Nat → Prop) (name : String)
    (v : Value) : Prop :=
  ∃ type i, formals.typeOf? name = some type ∧ places name i ∧ args[i]? = some v ∧ type.admits v = true

theorem Takes.mono {places places' : String → Nat → Prop} {name : String} {v : Value}
    (h : Takes formals args places name v) (hplaces : ∀ i, places name i → places' name i) :
    Takes formals args places' name v := by
  obtain ⟨type, i, htype, hi, harg, hadmits⟩ := h
  exact ⟨type, i, htype, hplaces i hi, harg, hadmits⟩

theorem grows_captureArgs (pairs : List (ArgPattern × Nat)) (c : Captures) :
    c.Grows (Takes formals args fun name i => (.named ⟨name⟩, i) ∈ pairs)
      (captureArgs formals method args pairs c).2 := by
  induction pairs generalizing c with
  | nil => exact .refl _ c
  | cons pair rest ih =>
      have hrest (c : Captures) : c.Grows
          (Takes formals args fun name i => (.named ⟨name⟩, i) ∈ pair :: rest)
          (captureArgs formals method args rest c).2 :=
        (ih c).mono fun name v h => h.mono fun i => List.mem_cons_of_mem _
      obtain ⟨pattern, index⟩ := pair
      cases pattern with
      | any | ellipsis => exact hrest c
      | named pattern =>
          simp only [captureArgs]
          split
          · exact .refl _ c
          · next arg harg =>
              split
              · next type htype =>
                  split
                  · next hadmits =>
                      refine (c.grows_insert ?_).trans (hrest _)
                      exact ⟨type, index, htype, List.mem_cons_self, harg, hadmits⟩
                  · exact .refl _ c
              · split
                · exact hrest c
                · exact .refl _ c

theorem captured_of_captureArgs {pairs : List (ArgPattern × Nat)} {name : String} {i : Nat}
    (h : captureArgs formals method args pairs c = (true, c')) (hmem : (.named ⟨name⟩, i) ∈ pairs)
    (hname : (formals.typeOf? name).isSome = true) : (c'.get? name).isSome = true := by
  induction pairs generalizing c with
  | nil => cases hmem
  | cons pair rest ih =>
      obtain ⟨type, htype⟩ := Option.isSome_iff_exists.1 hname
      rcases List.mem_cons.1 hmem with rfl | hrest
      · simp only [captureArgs, htype] at h
        split at h
        · cases h
        · next arg harg =>
            split at h
            · have hgrows : (c.insert name arg).Grows
                  (Takes formals args fun name i => (.named ⟨name⟩, i) ∈ rest)
                  (captureArgs formals method args rest (c.insert name arg)).2 := grows_captureArgs rest _
              rw [h] at hgrows
              exact hgrows.keeps name (by simp [Captures.get?_insert])
            · cases h
      · obtain ⟨pattern, index⟩ := pair
        cases pattern with
        | any | ellipsis => exact ih h hrest
        | named pattern =>
            simp only [captureArgs] at h
            split at h
            · cases h
            · split at h
              · split at h
                · exact ih h hrest
                · cases h
              · split at h
                · exact ih h hrest
                · cases h

theorem grows_run (e : Expr) (c : Captures) :
    c.Grows (Takes formals args (e.Aligns args.length)) (e.run formals method target args c).2 := by
  induction e generalizing c with
  | execution | within | not => exact .refl _ c
  | args source patterns =>
      simp only [run, matchArgs]
      split
      · exact .refl _ c
      · next pairs halign =>
          refine (grows_captureArgs pairs c).mono fun name v h => ?_
          exact h.mono fun i hmem => .args halign hmem
  | and left right ihl ihr =>
      have hl : c.Grows (Takes formals args ((and left right).Aligns args.length))
          (left.run formals method target args c).2 :=
        (ihl c).mono fun name v h => h.mono fun i => .andLeft
      simp only [run]
      split
      · next c' heq =>
          rw [heq] at hl
          refine hl.trans ((ihr c').mono fun name v h => ?_)
          exact h.mono fun i => .andRight
      · next heq => rwa [heq] at hl
  | or left right ihl ihr =>
      have hl : Captures.empty.Grows (Takes formals args ((or left right).Aligns args.length))
          (left.run formals method target args .empty).2 :=
        (ihl .empty).mono fun name v h => h.mono fun i => .orLeft
      have hr : Captures.empty.Grows (Takes formals args ((or left right).Aligns args.length))
          (right.run formals method target args .empty).2 :=
        (ihr .empty).mono fun name v h => h.mono fun i => .orRight
      simp only [run]
      split
      · next heq =>
          rw [heq] at hl
          exact Captures.grows_merge c hl
      · split
        · next heq =>
            rw [heq] at hr
            exact Captures.grows_merge c hr
        · exact .refl _ c

theorem grows_of_run {e : Expr} {matched : Bool} (h : e.run formals method target args c = (matched, c')) :
    c.Grows (Takes formals args (e.Aligns args.length)) c' := by
  have hgrows : c.Grows (Takes formals args (e.Aligns args.length)) (e.run formals method target args c).2 :=
    e.grows_run c
  rw [h] at hgrows
  exact hgrows

theorem captured_of_run {e : Expr} {name : String} (h : e.run formals method target args c = (true, c'))
    (hname : name ∈ e.definite formals) : (c'.get? name).isSome = true := by
  induction e generalizing c c' with
  | execution | within | not => cases hname
  | args source patterns =>
      obtain ⟨pattern, hmem, hpattern⟩ := List.mem_filterMap.1 hname
      obtain ⟨rfl, hformal⟩ := ArgPattern.formal?_eq_some hpattern
      simp only [run, matchArgs] at h
      split at h
      · cases h
      · next halign =>
          obtain ⟨i, hi⟩ := ArgPattern.exists_mem_align halign hmem
          exact captured_of_captureArgs h hi hformal
  | and left right ihl ihr =>
      simp only [run] at h
      split at h
      · next hl =>
          rcases List.mem_append.1 hname with hleft | hright
          · exact (grows_of_run h).keeps name (ihl hl hleft)
          · exact ihr h hright
      · cases h
  | or left right ihl ihr =>
      obtain ⟨hleft, hright⟩ := List.mem_filter.1 hname
      -- Whichever side matches, its table is written over the one before.
      have hmerge {extra : Captures} (hextra : (extra.get? name).isSome = true) :
          ((c.merge extra).get? name).isSome = true := by
        simp [Captures.get?_merge, hextra]
      simp only [run] at h
      split at h
      · next hl =>
          cases h
          exact hmerge (ihl hl hleft)
      · split at h
        · next hr =>
            cases h
            exact hmerge (ihr hr (by simpa using hright))
        · cases h

end Expr

namespace ExpressionPointcut

/-- A match has captured each name that is captured on every way through the expression. What it has
captured is one of the arguments, at a place that a list outside negations gives to the name, and
of the type that goes with the name. -/
theorem captures?_definite (p : ExpressionPointcut) (method : Method) (target : TypeInfo)
    (args : List Value) (captured : Captures) (h : p.captures? method target args = some captured) :
    (∀ name ∈ p.root.definite p.formals, (captured.get? name).isSome = true) ∧
      ∀ name v, captured.get? name = some v → ∃ type i, p.formals.typeOf? name = some type ∧
        p.root.Aligns args.length name i ∧ args[i]? = some v ∧
          ∀ t, type = .value t → t.isInstance v = true := by
  simp only [captures?, Expr.captures?] at h
  split at h
  · next hrun =>
      obtain rfl := Option.some.inj h
      constructor
      · intro name hname
        exact Expr.captured_of_run hrun hname
      · intro name v hv
        rcases (Expr.grows_of_run hrun).draws name v hv with hbefore | ⟨type, i, htype, halign, harg, hadmits⟩
        · cases hbefore
        · refine ⟨type, i, htype, halign, harg, ?_⟩
          rintro t rfl
          exact hadmits
  · cases h

/-- The name stands on both sides of the disjunction, at different places. -/
theorem order_captured_from_either_end :
    let order : Formals := ⟨["order", "note"], [.value (.ofRuntime .word32), .any]⟩
    let first : Expr := .args "order, .." [.named ⟨"order"⟩, .ellipsis]
    let last : Expr := .args ".., order" [.ellipsis, .named ⟨"order"⟩]
    let p : ExpressionPointcut := ⟨"(args(order, ..) || args(.., order)) && !args(note)",
      .and (.or first last) (.not (.args "note" [.named ⟨"note"⟩])), order⟩
    let send : Method := ⟨.ofName "Orders", "send", [.any, .any], none⟩
    let captured : Captures := ⟨[("order", .word32 7)]⟩
    p.captures? send (.ofName "Orders") [.text "urgent", .word32 7] = some captured ∧
      p.root.definite p.formals = ["order"] ∧ (captured.get? "order").isSome = true ∧
      ∀ name v, captured.get? name = some v → ∃ i, p.root.Aligns 2 name i ∧
        [Value.text "urgent", .word32 7][i]? = some v := by
  intro order first last p send captured
  have hcaptured : p.captures? send (.ofName "Orders") [.text "urgent", .word32 7] = some captured := by
    decide +kernel
  have hdefinite : p.root.definite p.formals = ["order"] := by decide +kernel
  obtain ⟨hall, hfrom⟩ := p.captures?_definite send (.ofName "Orders") _ captured hcaptured
  refine ⟨hcaptured, hdefinite, hall "order" ?_, ?_⟩
  · rw [hdefinite]
    exact List.mem_singleton_self _
  · intro name v hv
    obtain ⟨type, i, -, halign, harg, -⟩ := hfrom name v hv
    exact ⟨i, halign, harg⟩

end ExpressionPointcut

end Weaving
