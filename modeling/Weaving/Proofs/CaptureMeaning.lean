import Mathlib.Data.List.Nodup
import Weaving.Expression.ExpressionPointcut

namespace Weaving

/-- What a pointcut means for a call: no match, or the values of names. -/
abbrev Meaning := Option (String → Option Value)

namespace Meaning

def ofBool (answer : Bool) : Meaning := if answer then some fun _ => none else none

/-- The values of the left side, with those of the right side over them. -/
def both : Meaning → Meaning → Meaning
  | some f, some g => some fun name => (g name).or (f name)
  | _, _ => none

def negate : Meaning → Meaning
  | some _ => none
  | none => some fun _ => none

end Meaning

namespace Captures

variable {c d : Captures} {result : Bool × Captures} {l r : Meaning}

/-- Each name stands in the table once. -/
def Distinct (c : Captures) : Prop := (c.entries.map Prod.fst).Nodup

theorem distinct_empty : empty.Distinct := List.nodup_nil

theorem Distinct.insert (h : c.Distinct) (name : String) (v : Value) : (c.insert name v).Distinct := by
  have hkept : ((c.entries.filter (·.1 != name)).map Prod.fst).Nodup :=
    h.sublist (List.filter_sublist.map Prod.fst)
  refine List.nodup_cons.2 ⟨fun hmem => ?_, hkept⟩
  obtain ⟨e, he, heq⟩ := List.mem_map.1 hmem
  simpa [heq] using (List.mem_filter.1 he).2

theorem Distinct.merge (h : c.Distinct) (d : Captures) : (c.merge d).Distinct := by
  obtain ⟨entries⟩ := d
  induction entries with
  | nil => exact h
  | cons e rest ih => exact ih.insert e.1 e.2

/-- What comes of matching that starts with the table `c`. Where it matches, the meaning has been
written over the table; where it does not, the table that is left may hold anything. -/
inductive Writes (c : Captures) : Meaning → Bool × Captures → Prop
  | refused (left : Captures) : Writes c none (false, left)
  | matched {f : String → Option Value} {c' : Captures}
      (hget : ∀ name, c'.get? name = (f name).or (c.get? name)) (hdistinct : c.Distinct → c'.Distinct) :
      Writes c (some f) (true, c')

theorem writes_ofBool (c : Captures) (answer : Bool) : c.Writes (.ofBool answer) (answer, c) := by
  cases answer with
  | false => exact .refused c
  | true => exact .matched (fun _ => rfl) id

theorem Writes.both {next : Captures → Bool × Captures} (h : c.Writes l result)
    (hnext : ∀ c' : Captures, c'.Writes r (next c')) :
    c.Writes (l.both r) (if result.1 then next result.2 else result) := by
  cases h with
  | refused left => exact .refused left
  | matched hget hdistinct =>
      next f c' =>
      have hr := hnext c'
      rw [if_pos rfl]
      generalize next c' = second at hr ⊢
      cases hr with
      | refused left => exact .refused left
      | matched hget' hdistinct' =>
          refine .matched (fun name => ?_) fun h => hdistinct' (hdistinct h)
          rw [hget', hget, Option.or_assoc]

/-- Both sides start with an empty table, and the table of the side that matches is merged in. -/
theorem Writes.or {second : Bool × Captures} (h : empty.Writes l result) (h' : empty.Writes r second) :
    c.Writes (l.or r) (if result.1 then (true, c.merge result.2)
      else if second.1 then (true, c.merge second.2) else (false, c)) := by
  have hmerge {f : String → Option Value} {d : Captures}
      (hget : ∀ name, d.get? name = (f name).or (empty.get? name)) :
      c.Writes (some f) (true, c.merge d) := by
    refine .matched (fun name => ?_) fun h => h.merge d
    rw [get?_merge, hget, get?_empty, Option.or_none]
  cases h with
  | refused left =>
      cases h' with
      | refused left => exact .refused c
      | matched hget hdistinct => exact hmerge hget
  | matched hget hdistinct => exact hmerge hget

/-- Whatever is captured below a negation stays in a table that is dropped. -/
theorem Writes.negate (h : empty.Writes l result) : c.Writes l.negate (!result.1, c) := by
  cases h with
  | refused left => exact .matched (fun _ => rfl) id
  | matched hget hdistinct => exact .refused c

end Captures

namespace Expr

variable {formals : Formals} {method : Method} {target : TypeInfo} {args : List Value} {c : Captures}

/-- Whether an element of a list takes the argument it is paired with: a formal parameter by its
type, another name by the declared type and that type's values. -/
def takes (formals : Formals) (method : Method) (args : List Value) : ArgPattern × Nat → Bool
  | (.named pattern, index) =>
    (args[index]?).any fun arg =>
      match formals.typeOf? pattern.text with
      | some type => type.admits arg
      | none => (method.parameters[index]?).any fun t => pattern.acceptsType t && t.isInstance arg
  | _ => true

/-- The argument that a list gives to a formal parameter, by the last place of the name. -/
def aligned (formals : Formals) (args : List Value) (pairs : List (ArgPattern × Nat)) (name : String) :
    Option Value :=
  if (formals.typeOf? name).isSome then
    pairs.reverse.findSome? fun pair => if pair.1 = .named ⟨name⟩ then args[pair.2]? else none
  else none

/-- The meaning of an expression, put together from the meanings of its parts. A list has all the
arguments of its formal parameters or none. -/
def meaning (formals : Formals) (method : Method) (target : TypeInfo) (args : List Value) : Expr → Meaning
  | execution pattern => .ofBool (pattern.accepts method target)
  | within pattern => .ofBool (pattern.acceptsType target)
  | .args _ patterns =>
    (ArgPattern.align patterns args.length).bind fun pairs =>
      if pairs.all (takes formals method args) then some (aligned formals args pairs) else none
  | and left right =>
    (left.meaning formals method target args).both (right.meaning formals method target args)
  | or left right =>
    (left.meaning formals method target args).or (right.meaning formals method target args)
  | not inner => (inner.meaning formals method target args).negate

theorem aligned_cons (pair : ArgPattern × Nat) (pairs : List (ArgPattern × Nat)) (name : String) :
    aligned formals args (pair :: pairs) name =
      (aligned formals args pairs name).or (aligned formals args [pair] name) := by
  simp only [aligned]
  split
  · rw [List.reverse_cons, List.findSome?_append, List.reverse_singleton]
  · rfl

theorem aligned_singleton (pattern : ArgPattern) (index : Nat) (name : String) :
    aligned formals args [(pattern, index)] name =
      if (formals.typeOf? name).isSome ∧ pattern = .named ⟨name⟩ then args[index]? else none := by
  simp only [aligned, List.reverse_singleton, List.findSome?_singleton]
  split <;> simp_all

/-- The table behind an element that takes its argument. -/
def noting (formals : Formals) (args : List Value) (c : Captures) : ArgPattern × Nat → Captures
  | (.named pattern, index) =>
    if (formals.typeOf? pattern.text).isSome then (args[index]?).elim c (c.insert pattern.text) else c
  | _ => c

theorem get?_noting (pair : ArgPattern × Nat) (name : String) :
    (noting formals args c pair).get? name = (aligned formals args [pair] name).or (c.get? name) := by
  obtain ⟨pattern, index⟩ := pair
  rw [aligned_singleton]
  cases pattern with
  | any | ellipsis => simp [noting]
  | named pattern =>
      obtain ⟨text⟩ := pattern
      simp only [noting, ArgPattern.named.injEq, NamePattern.mk.injEq]
      by_cases hname : text = name
      · subst hname
        by_cases hformal : (formals.typeOf? text).isSome = true
        · cases harg : args[index]? <;> simp [hformal, Captures.get?_insert]
        · simp [hformal]
      · split
        · cases harg : args[index]? <;> simp [hname, Ne.symm hname, Captures.get?_insert]
        · simp [hname]

theorem distinct_noting (h : c.Distinct) (pair : ArgPattern × Nat) : (noting formals args c pair).Distinct := by
  obtain ⟨pattern, index⟩ := pair
  cases pattern with
  | any | ellipsis => exact h
  | named pattern =>
      simp only [noting]
      split
      · cases args[index]? with
        | none => exact h
        | some arg => exact h.insert pattern.text arg
      · exact h

/-- A list is matched element by element up to the first that refuses its argument. -/
theorem captureArgs_cons (pair : ArgPattern × Nat) (rest : List (ArgPattern × Nat)) (c : Captures) :
    captureArgs formals method args (pair :: rest) c =
      if takes formals method args pair then captureArgs formals method args rest (noting formals args c pair)
      else (false, c) := by
  obtain ⟨pattern, index⟩ := pair
  cases pattern with
  | any | ellipsis => rfl
  | named pattern =>
      simp only [captureArgs]
      split
      · next harg => simp [takes, harg]
      · next arg harg =>
          split
          · next type htype => simp [takes, noting, harg, htype]
          · next htype => simp [takes, noting, harg, htype]

theorem writes_captureArgs (pairs : List (ArgPattern × Nat)) (c : Captures) :
    c.Writes (if pairs.all (takes formals method args) then some (aligned formals args pairs) else none)
      (captureArgs formals method args pairs c) := by
  induction pairs generalizing c with
  | nil => exact .matched (by simp [aligned]) id
  | cons pair rest ih =>
      rw [captureArgs_cons, List.all_cons]
      cases takes formals method args pair with
      | false => exact .refused c
      | true =>
          have hrest := ih (noting formals args c pair)
          rw [Bool.true_and, if_pos rfl]
          generalize captureArgs formals method args rest (noting formals args c pair) = result at hrest ⊢
          cases hall : rest.all (takes formals method args) with
          | false =>
              rw [hall] at hrest
              cases hrest with
              | refused left => exact .refused left
          | true =>
              rw [hall] at hrest
              cases hrest with
              | matched hget hdistinct =>
                  refine .matched (fun name => ?_) fun h => hdistinct (distinct_noting h pair)
                  rw [hget, get?_noting, aligned_cons pair rest, Option.or_assoc]

theorem run_and (left right : Expr) (c : Captures) :
    (and left right).run formals method target args c =
      if (left.run formals method target args c).1 then
        right.run formals method target args (left.run formals method target args c).2
      else left.run formals method target args c := by
  simp only [run]
  split <;> simp_all

theorem run_or (left right : Expr) (c : Captures) :
    (or left right).run formals method target args c =
      if (left.run formals method target args .empty).1 then
        (true, c.merge (left.run formals method target args .empty).2)
      else if (right.run formals method target args .empty).1 then
        (true, c.merge (right.run formals method target args .empty).2)
      else (false, c) := by
  simp only [run]
  split
  · simp_all
  · split <;> simp_all

/-- Matching writes the meaning of the expression over the table that it is given. -/
theorem writes_run (e : Expr) (c : Captures) :
    c.Writes (e.meaning formals method target args) (e.run formals method target args c) := by
  -- Parts behind a match go on with a table that is filled already, so the table is general.
  induction e generalizing c with
  | execution pattern => exact c.writes_ofBool _
  | within pattern => exact c.writes_ofBool _
  | args source patterns =>
      simp only [meaning, run, matchArgs]
      cases ArgPattern.align patterns args.length with
      | none => exact .refused c
      | some pairs => exact writes_captureArgs pairs c
  | and left right ihl ihr =>
      rw [run_and]
      exact (ihl c).both ihr
  | or left right ihl ihr =>
      rw [run_or]
      exact (ihl .empty).or (ihr .empty)
  | not inner ih => exact (ih .empty).negate

/-- The argument lists that take part in a match, with their elements paired: each takes all its
arguments and stands below no negation, in a conjunction of which both sides match, and in a
disjunction on the side that is taken. -/
inductive TakesPart (formals : Formals) (method : Method) (target : TypeInfo) (args : List Value) :
    Expr → List (ArgPattern × Nat) → Prop
  | args {source : String} {patterns : List ArgPattern} {pairs : List (ArgPattern × Nat)}
      (halign : ArgPattern.align patterns args.length = some pairs)
      (htakes : ∀ pair ∈ pairs, takes formals method args pair = true) :
      TakesPart formals method target args (.args source patterns) pairs
  | andLeft {left right : Expr} {pairs : List (ArgPattern × Nat)}
      (h : TakesPart formals method target args left pairs)
      (hright : (right.meaning formals method target args).isSome = true) :
      TakesPart formals method target args (.and left right) pairs
  | andRight {left right : Expr} {pairs : List (ArgPattern × Nat)}
      (hleft : (left.meaning formals method target args).isSome = true)
      (h : TakesPart formals method target args right pairs) :
      TakesPart formals method target args (.and left right) pairs
  | orLeft {left right : Expr} {pairs : List (ArgPattern × Nat)}
      (h : TakesPart formals method target args left pairs) :
      TakesPart formals method target args (.or left right) pairs
  | orRight {left right : Expr} {pairs : List (ArgPattern × Nat)}
      (hleft : left.meaning formals method target args = none)
      (h : TakesPart formals method target args right pairs) :
      TakesPart formals method target args (.or left right) pairs

theorem exists_takesPart {e : Expr} {f : String → Option Value} {name : String} {v : Value}
    (h : e.meaning formals method target args = some f) (hv : f name = some v) :
    ∃ pairs, e.TakesPart formals method target args pairs ∧ aligned formals args pairs name = some v := by
  induction e generalizing f with
  | execution pattern | within pattern =>
      simp only [meaning, Meaning.ofBool, Option.ite_none_right_eq_some, Option.some.injEq] at h
      obtain ⟨-, rfl⟩ := h
      cases hv
  | args source patterns =>
      simp only [meaning, Option.bind_eq_some_iff, Option.ite_none_right_eq_some, Option.some.injEq] at h
      obtain ⟨pairs, halign, htakes, rfl⟩ := h
      exact ⟨pairs, .args halign (List.all_eq_true.1 htakes), hv⟩
  | and left right ihl ihr =>
      rw [meaning] at h
      cases hl : left.meaning formals method target args with
      | none => simp [hl, Meaning.both] at h
      | some fl =>
          cases hr : right.meaning formals method target args with
          | none => simp [hl, hr, Meaning.both] at h
          | some fr =>
              simp only [hl, hr, Meaning.both, Option.some.injEq] at h
              subst h
              rcases Option.or_eq_some_iff.1 hv with hv | ⟨-, hv⟩
              · obtain ⟨pairs, hpart, heq⟩ := ihr hr hv
                exact ⟨pairs, .andRight (by simp [hl]) hpart, heq⟩
              · obtain ⟨pairs, hpart, heq⟩ := ihl hl hv
                exact ⟨pairs, .andLeft hpart (by simp [hr]), heq⟩
  | or left right ihl ihr =>
      rw [meaning, Option.or_eq_some_iff] at h
      rcases h with hl | ⟨hl, hr⟩
      · obtain ⟨pairs, hpart, heq⟩ := ihl hl hv
        exact ⟨pairs, .orLeft hpart, heq⟩
      · obtain ⟨pairs, hpart, heq⟩ := ihr hr hv
        exact ⟨pairs, .orRight hl hpart, heq⟩
  | not inner ih =>
      rw [meaning] at h
      cases hi : inner.meaning formals method target args with
      | none =>
          simp only [hi, Meaning.negate, Option.some.injEq] at h
          subst h
          cases hv
      | some fi => simp [hi, Meaning.negate] at h

end Expr

namespace ExpressionPointcut

/-- A match has captured what the pointcut means for the call, each name once, and there is a match
wherever there is a meaning. All that it has captured comes from argument lists that take part in
it: what a list wrote that refused an argument, or one below a negation, or one beside a side that
does not match, is gone. -/
theorem captures?_eq_meaning (p : ExpressionPointcut) (method : Method) (target : TypeInfo)
    (args : List Value) :
    (p.captures? method target args).map Captures.get? = p.root.meaning p.formals method target args ∧
      ∀ captured, p.captures? method target args = some captured → captured.Distinct ∧
        ∀ name v, captured.get? name = some v → ∃ pairs,
          p.root.TakesPart p.formals method target args pairs ∧
            Expr.aligned p.formals args pairs name = some v := by
  have hrun : Captures.empty.Writes (p.root.meaning p.formals method target args)
      (p.root.run p.formals method target args .empty) := p.root.writes_run .empty
  simp only [captures?, Expr.captures?]
  generalize hmeaning : p.root.meaning p.formals method target args = m at hrun ⊢
  generalize p.root.run p.formals method target args .empty = result at hrun ⊢
  cases hrun with
  | refused left => exact ⟨rfl, nofun⟩
  | matched hget hdistinct =>
      next f c =>
      have hget : c.get? = f := funext fun name => by rw [hget, Captures.get?_empty, Option.or_none]
      refine ⟨congrArg some hget, ?_⟩
      rintro _ ⟨⟩
      refine ⟨hdistinct Captures.distinct_empty, fun name v hv => ?_⟩
      exact Expr.exists_takesPart hmeaning (by rwa [← hget])

/-- The list on the left writes `id` before it refuses the second argument, and the negated list
refuses at once. Neither shows in what is captured. -/
theorem count_captured_behind_half_match :
    let formals : Formals :=
      ⟨["id", "note", "count"], [.value (.ofRuntime .word32), .value (.ofRuntime .text), .any]⟩
    let either : Expr := .or (.args "id, note" [.named ⟨"id"⟩, .named ⟨"note"⟩])
      (.args ".., count" [.ellipsis, .named ⟨"count"⟩])
    let p : ExpressionPointcut :=
      ⟨"(args(id, note) || args(.., count)) && !args(note)",
        .and either (.not (.args "note" [.named ⟨"note"⟩])), formals⟩
    let move : Method := ⟨.ofName "Stock", "move", [.any, .any], none⟩
    let args : List Value := [.word32 7, .word32 8]
    let captured : Captures := ⟨[("count", .word32 8)]⟩
    p.captures? move (.ofName "Stock") args = some captured ∧
      p.root.meaning p.formals move (.ofName "Stock") args = some captured.get? ∧ captured.Distinct ∧
      ∃ pairs, p.root.TakesPart p.formals move (.ofName "Stock") args pairs ∧
        Expr.aligned p.formals args pairs "count" = some (.word32 8) := by
  intro formals either p move args captured
  have hcaptured : p.captures? move (.ofName "Stock") args = some captured := by decide +kernel
  obtain ⟨hmeaning, hparts⟩ := p.captures?_eq_meaning move (.ofName "Stock") args
  rw [hcaptured] at hmeaning
  obtain ⟨hdistinct, hfrom⟩ := hparts captured hcaptured
  exact ⟨hcaptured, hmeaning.symm, hdistinct, hfrom "count" (.word32 8) rfl⟩

end ExpressionPointcut

end Weaving
