import Mathlib.Algebra.GroupWithZero.Nat
import Mathlib.Data.List.DropRight
import Weaving.Aspect.Registry
import Weaving.Proofs.ArgumentTypes
import Weaving.Proofs.NameLists

namespace Weaving

namespace Advisor

/-- Of the advisors with one key only the first. -/
def firsts (submitted : List Advisor) : List Advisor :=
  submitted.eraseDupsBy fun a b => b.key == a.key

theorem firsts_concat (submitted : List Advisor) (a : Advisor) :
    firsts (submitted ++ [a]) =
      if (firsts submitted).any fun b => b.key == a.key then firsts submitted
      else firsts submitted ++ [a] := eraseDupsBy_concat submitted a

theorem any_key_iff {advisors : List Advisor} {a : Advisor} :
    (advisors.any fun b => b.key == a.key) = true ↔ a.key ∈ advisors.map key := by
  simp only [List.any_eq_true, beq_iff_eq, List.mem_map]

theorem nodup_firsts (submitted : List Advisor) : ((firsts submitted).map key).Nodup := by
  induction submitted using List.reverseRecOn with
  | nil => exact .nil
  | append_singleton submitted a ih =>
      rw [firsts_concat]
      split
      · exact ih
      · next hnew =>
          rw [any_key_iff] at hnew
          rw [List.map_append, List.map_singleton, ← List.concat_eq_append]
          exact ih.concat hnew

theorem key_mem_firsts {submitted : List Advisor} {a : Advisor} (ha : a ∈ submitted) :
    a.key ∈ (firsts submitted).map key := by
  induction submitted using List.reverseRecOn with
  | nil => cases ha
  | append_singleton submitted b ih =>
      rw [List.mem_append, List.mem_singleton] at ha
      rw [firsts_concat]
      split
      · next hknown =>
          obtain ha | rfl := ha
          · exact ih ha
          · exact any_key_iff.1 hknown
      · rw [List.map_append, List.mem_append]
        obtain ha | rfl := ha
        · exact .inl (ih ha)
        · exact .inr (List.mem_singleton_self _)

end Advisor

namespace AspectDefinition

/-- The keys of the advisors, or the first error of an advice. Of the factory it only takes the
name. -/
def keysOf (name : String) (discoverer : Discoverer) (references : Expr.References) :
    List (AdviceMethod × Nat × AdviceSpecification) →
      Except EngineError (List (String × String × String))
  | [] => .ok []
  | (method, _, specification) :: rest =>
    match ExpressionPointcut.parse references specification.expression with
    | .error e => .error e
    | .ok pointcut =>
      match (Planning.compute method specification discoverer pointcut).result with
      | .error e => .error e
      | .ok _ =>
        (keysOf name discoverer references rest).map ((name, method.name, pointcut.expression) :: ·)

def keys (d : AspectDefinition) (name : String) (discoverer : Discoverer) :
    Except EngineError (List (String × String × String)) :=
  match declarations d.methods.zipIdx with
  | .error e => .error e
  | .ok (advice, references) => keysOf name discoverer references advice

variable {factory : Factory} {discoverer : Discoverer} {l : Loom}

theorem keys_of_advisorsOf {references : Expr.References}
    (declared : List (AdviceMethod × Nat × AdviceSpecification)) (hl : l.IsFresh) :
    (advisorsOf factory discoverer references declared l).1.map (·.map Advisor.key) =
        keysOf factory.name discoverer references declared ∧
      (advisorsOf factory discoverer references declared l).2.IsFresh := by
  induction declared generalizing l with
  | nil => exact ⟨rfl, hl⟩
  | cons d rest ih =>
      obtain ⟨method, position, specification⟩ := d
      simp only [advisorsOf, keysOf]
      cases ExpressionPointcut.parse references specification.expression with
      | error e => exact ⟨rfl, hl⟩
      | ok pointcut =>
          obtain ⟨hplanned, hfresh⟩ :=
            hl.newAdvice method specification pointcut factory discoverer position
          obtain ⟨hkeys, hlast⟩ := ih hfresh
          -- The plan is made here and now, so it does not depend on the state either.
          have hcompute : (l.newAdvice method specification pointcut factory discoverer position).1.planned =
              Planning.compute method specification discoverer pointcut := rfl
          rw [hcompute] at hplanned
          simp only [hplanned, ← hkeys]
          cases (Planning.compute method specification discoverer pointcut).result with
          | error e => exact ⟨rfl, hfresh⟩
          | ok plan =>
              generalize advisorsOf factory discoverer references rest _ = answer at hlast ⊢
              obtain ⟨others | others, l'⟩ := answer <;> exact ⟨rfl, hlast⟩

/-- An aspect has the same advisors in whatever state it is asked for them, if no plan is made
ahead. -/
theorem keys_of_advisors (d : AspectDefinition) (factory : Factory) (discoverer : Discoverer) (hl : l.IsFresh) :
    (d.advisors factory discoverer l).1.map (·.map Advisor.key) = d.keys factory.name discoverer ∧
      (d.advisors factory discoverer l).2.IsFresh := by
  simp only [advisors, keys]
  cases declarations d.methods.zipIdx with
  | error e => exact ⟨rfl, hl⟩
  | ok declared => exact keys_of_advisorsOf declared.1 hl

theorem name_factory (d : AspectDefinition) (w : World) : (d.factory w).1.name = d.name := by
  simp only [AspectDefinition.factory]
  split <;> rfl

end AspectDefinition

namespace Registry

variable {r : Registry} {earlier advisors : List Advisor}

theorem add_append (h : r.advisors = Advisor.firsts earlier) (advisors : List Advisor) :
    (r.add advisors).2 = { r with advisors := Advisor.firsts (earlier ++ advisors) } := by
  induction advisors generalizing r earlier with
  | nil =>
      rw [List.append_nil, ← h]
      rfl
  | cons a rest ih =>
      have hone : (r.addOne a).2 = { r with advisors := Advisor.firsts (earlier ++ [a]) } := by
        rw [addOne, Advisor.firsts_concat, ← h]
        split <;> rfl
      have hstart : (r.addOne a).2.advisors = Advisor.firsts (earlier ++ [a]) := by rw [hone]
      have hrest := ih hstart
      rw [List.append_assoc, List.singleton_append, hone] at hrest
      simp only [add, hone]
      exact hrest

theorem size_addOne (r : Registry) (a : Advisor) : (r.addOne a).1 + r.size = (r.addOne a).2.size := by
  rw [addOne]
  split
  · exact Nat.zero_add _
  · rw [size, size, List.length_append, List.length_singleton, Nat.add_comm]

theorem size_add (r : Registry) (advisors : List Advisor) :
    (r.add advisors).1 + r.size = (r.add advisors).2.size := by
  induction advisors generalizing r with
  | nil => exact Nat.zero_add _
  | cons a rest ih =>
      have hone := r.size_addOne a
      have hrest := ih (r.addOne a).2
      simp only [add]
      omega

theorem add_of_known (h : advisors.map Advisor.key ⊆ r.advisors.map Advisor.key) :
    r.add advisors = (0, r) := by
  induction advisors with
  | nil => rfl
  | cons a rest ih =>
      rw [List.map_cons, List.cons_subset] at h
      have hone : r.addOne a = (0, r) := if_pos (Advisor.any_key_iff.2 h.1)
      simp only [add, hone, ih h.2]

/-- The advisors of an aspect that is wanted and without error. -/
def obtained (r : Registry) (d : AspectDefinition) (factory : Factory) (l : Loom) : List Advisor :=
  if r.isEligible d.name then (d.advisors factory r.discoverer l).1.toOption.getD [] else []

/-- What is asked of a registry. In between the program does something else, and what it leaves
behind is a state in which no plan is made ahead. -/
inductive Request where
  | register (d : AspectDefinition)
  | registerWith (d : AspectDefinition) (factory : Factory)
  | add (advisors : List Advisor)
  | clear
  | elsewhere (l : Loom) (hl : l.IsFresh)

namespace Request

def perform (r : Registry) (l : Loom) : Request → Except EngineError Nat × Registry × Loom
  | register d => r.register d l
  | registerWith d factory => r.registerWith d factory l
  | add advisors => (.ok (r.add advisors).1, (r.add advisors).2, l)
  | clear => (.ok 0, r.clear, l)
  | elsewhere l _ => (.ok 0, r, l)

/-- The advisors that a request brings. -/
def submitted (r : Registry) (l : Loom) : Request → List Advisor
  | register d => r.obtained d (d.factory l.world).1 { l with world := (d.factory l.world).2 }
  | registerWith d factory => r.obtained d factory l
  | add advisors => advisors
  | clear | elsewhere _ _ => []

/-- The aspect to register, with the name that its factory has for it. -/
def registration? : Request → Option (AspectDefinition × String)
  | register d => some (d, d.name)
  | registerWith d factory => some (d, factory.name)
  | add _ | clear | elsewhere _ _ => none

def isClear : Request → Bool
  | clear => true
  | register _ | registerWith _ _ | add _ | elsewhere _ _ => false

end Request

/-- How a registration ends, with the advisors that it brings. -/
inductive Registers (r : Registry) (d : AspectDefinition) (name : String) :
    List Advisor → Except EngineError Nat → Registry → Prop
  | unwanted (h : r.isEligible d.name = false) : Registers r d name [] (.ok 0) r
  | failed (e : EngineError) (hwanted : r.isEligible d.name = true)
      (h : d.keys name r.discoverer = .error e) : Registers r d name [] (.error e) r
  | added (advisors : List Advisor) (hwanted : r.isEligible d.name = true)
      (h : d.keys name r.discoverer = .ok (advisors.map Advisor.key)) :
      Registers r d name advisors (.ok (r.add advisors).1) (r.add advisors).2

variable {d : AspectDefinition} {name : String} {l : Loom} {q : Request}

theorem registerWith_registers (henabled : r.properties.enabled = true) (d : AspectDefinition)
    (factory : Factory) (hl : l.IsFresh) :
    Registers r d factory.name (r.obtained d factory l) (r.registerWith d factory l).1
        (r.registerWith d factory l).2.1 ∧ (r.registerWith d factory l).2.2.IsFresh := by
  obtain ⟨hkeys, hfresh⟩ := d.keys_of_advisors factory r.discoverer hl
  simp only [registerWith, obtained, henabled, Bool.true_and]
  cases hwanted : r.isEligible d.name with
  | false => exact ⟨.unwanted hwanted, hl⟩
  | true =>
      revert hkeys hfresh
      rcases d.advisors factory r.discoverer l with ⟨e | advisors, l'⟩
      · exact fun hkeys hfresh => ⟨.failed e hwanted hkeys.symm, hfresh⟩
      · exact fun hkeys hfresh => ⟨.added advisors hwanted hkeys.symm, hfresh⟩

theorem register_registers (henabled : r.properties.enabled = true) (d : AspectDefinition)
    (hl : l.IsFresh) :
    Registers r d d.name (r.obtained d (d.factory l.world).1 { l with world := (d.factory l.world).2 })
        (r.register d l).1 (r.register d l).2.1 ∧ (r.register d l).2.2.IsFresh := by
  have hworld : Loom.IsFresh { l with world := (d.factory l.world).2 } := hl
  have hregisters := registerWith_registers henabled d (d.factory l.world).1 hworld
  rw [d.name_factory] at hregisters
  exact hregisters

theorem Request.registers_of_registration? (henabled : r.properties.enabled = true) (hl : l.IsFresh)
    (hq : q.registration? = some (d, name)) :
    Registers r d name (q.submitted r l) (q.perform r l).1 (q.perform r l).2.1 := by
  cases q with
  | register d =>
      cases hq
      exact (register_registers henabled d hl).1
  | registerWith d factory =>
      cases hq
      exact (registerWith_registers henabled d factory hl).1
  | add | clear | elsewhere => cases hq

theorem Request.isFresh_perform (henabled : r.properties.enabled = true) (hl : l.IsFresh) (q : Request) :
    (q.perform r l).2.2.IsFresh := by
  cases q with
  | register d => exact (register_registers henabled d hl).2
  | registerWith d factory => exact (registerWith_registers henabled d factory hl).2
  | add | clear => exact hl
  | elsewhere _ hl => exact hl

namespace Registers

variable {reply : Except EngineError Nat} {r' : Registry}

theorem eq_add (h : Registers r d name advisors reply r') :
    reply.toOption.getD 0 = (r.add advisors).1 ∧ r' = (r.add advisors).2 := by
  cases h <;> exact ⟨rfl, rfl⟩

theorem keys_eq (h : Registers r d name advisors reply r') (hok : reply.isOk = true)
    (hwanted : r.isEligible d.name = true) :
    d.keys name r.discoverer = .ok (advisors.map Advisor.key) := by
  cases h with
  | unwanted hnot => rw [hwanted] at hnot; cases hnot
  | failed => cases hok
  | added _ _ hkeys => exact hkeys

theorem eq_self (h : Registers r d name advisors reply r')
    (hnot : reply.isOk = false ∨ r.isEligible d.name = false) : r' = r := by
  cases h with
  | unwanted | failed => rfl
  | added _ hwanted =>
      obtain hnot | hnot := hnot
      · cases hnot
      · rw [hwanted] at hnot
        cases hnot

/-- An aspect adds nothing if the keys of its advisors are there already. -/
theorem eq_of_known (h : Registers r d name advisors reply r') (known : List Advisor)
    (hknown : r.isEligible d.name = true → d.keys name r.discoverer = .ok (known.map Advisor.key))
    (hsubset : known.map Advisor.key ⊆ r.advisors.map Advisor.key) : reply = .ok 0 ∧ r' = r := by
  cases h with
  | unwanted => exact ⟨rfl, rfl⟩
  | failed _ hwanted hkeys =>
      rw [hknown hwanted] at hkeys
      cases hkeys
  | added _ hwanted hkeys =>
      rw [hknown hwanted, Except.ok.injEq] at hkeys
      rw [hkeys] at hsubset
      rw [add_of_known hsubset]
      exact ⟨rfl, rfl⟩

end Registers

/-- Whatever is asked of a registry, short of clearing it, the advisors that it brings are added. -/
theorem Request.perform_eq_add (henabled : r.properties.enabled = true) (hl : l.IsFresh)
    (hq : q.isClear = false) :
    (q.perform r l).1.toOption.getD 0 = (r.add (q.submitted r l)).1 ∧
      (q.perform r l).2.1 = (r.add (q.submitted r l)).2 := by
  cases q with
  | register d => exact (registers_of_registration? henabled hl rfl).eq_add
  | registerWith d factory => exact (registers_of_registration? henabled hl rfl).eq_add
  | add | elsewhere => exact ⟨rfl, rfl⟩
  | clear => cases hq

/-- A request with the advisors that it brought and the answer to it. -/
structure Entry where
  request : Request
  submitted : List Advisor
  reply : Except EngineError Nat

def Entry.count (e : Entry) : Nat := e.reply.toOption.getD 0

/-- A registry in a program, with all that was asked of it. -/
structure Diary where
  registry : Registry
  loom : Loom
  entries : List Entry

namespace Diary

/-- What is noted of a request. -/
def entry (s : Diary) (q : Request) : Entry :=
  ⟨q, q.submitted s.registry s.loom, (q.perform s.registry s.loom).1⟩

def next (s : Diary) (q : Request) : Diary where
  registry := (q.perform s.registry s.loom).2.1
  loom := (q.perform s.registry s.loom).2.2
  entries := s.entries ++ [s.entry q]

def run (s : Diary) (requests : List Request) : Diary := requests.foldl next s

/-- What was asked since the registry was cleared. -/
def recent (s : Diary) : List Entry := s.entries.rtakeWhile fun e => !e.request.isClear

/-- What was submitted since the registry was cleared. -/
def submitted (s : Diary) : List Advisor := s.recent.flatMap Entry.submitted

variable {s : Diary}

theorem recent_next_of_clear (h : q.isClear = true) : (s.next q).recent = [] := by
  rw [recent, next, List.rtakeWhile_concat, if_neg (by simp [entry, h])]

theorem recent_next (h : q.isClear = false) : (s.next q).recent = s.recent ++ [s.entry q] := by
  rw [recent, next, List.rtakeWhile_concat, if_pos (by simp [entry, h])]
  rfl

theorem submitted_next (h : q.isClear = false) :
    (s.next q).submitted = s.submitted ++ q.submitted s.registry s.loom := by
  rw [submitted, recent_next h, List.flatMap_append, List.flatMap_singleton]
  rfl

/-- The registry is what it was in the beginning, with the first advisor of each key. -/
structure Kept (r : Registry) (s : Diary) : Prop where
  registry_eq : s.registry = { r with advisors := Advisor.firsts s.submitted }
  sum_eq : (s.recent.map Entry.count).sum = s.registry.size
  isFresh : s.loom.IsFresh
  /-- A registration with an answer is one of an aspect without error. -/
  keys_eq : ∀ e ∈ s.recent, ∀ d name, e.request.registration? = some (d, name) → e.reply.isOk = true →
    r.isEligible d.name = true → d.keys name r.discoverer = .ok (e.submitted.map Advisor.key)

theorem kept_init (hempty : r.advisors = []) (hl : l.IsFresh) : Kept r ⟨r, l, []⟩ where
  registry_eq := by
    obtain ⟨properties, included, advisors⟩ := r
    cases hempty
    rfl
  sum_eq := by
    rw [size, hempty]
    rfl
  isFresh := hl
  keys_eq e he := absurd he List.not_mem_nil

theorem Kept.advisors_eq (h : Kept r s) : s.registry.advisors = Advisor.firsts s.submitted := by
  rw [h.registry_eq]

theorem Kept.enabled (h : Kept r s) (henabled : r.properties.enabled = true) :
    s.registry.properties.enabled = true := by
  rw [h.registry_eq]
  exact henabled

theorem Kept.isEligible (h : Kept r s) (aspect : String) :
    s.registry.isEligible aspect = r.isEligible aspect := by
  rw [h.registry_eq]
  rfl

theorem Kept.discoverer (h : Kept r s) : s.registry.discoverer = r.discoverer := by
  rw [h.registry_eq]
  rfl

theorem Kept.next_clear (h : Kept r s) : Kept r (s.next .clear) where
  registry_eq := by
    rw [submitted, recent_next_of_clear rfl]
    change s.registry.clear = _
    rw [clear, h.registry_eq]
    rfl
  sum_eq := by
    rw [recent_next_of_clear rfl]
    rfl
  isFresh := h.isFresh
  keys_eq := by
    rw [recent_next_of_clear rfl]
    exact fun e he => absurd he List.not_mem_nil

theorem Kept.next_of_add (h : Kept r s) (henabled : r.properties.enabled = true) (hq : q.isClear = false) :
    Kept r (s.next q) := by
  have henabled' := h.enabled henabled
  obtain ⟨hcount, hregistry⟩ := q.perform_eq_add henabled' h.isFresh hq
  change (s.entry q).count = _ at hcount
  change (s.next q).registry = _ at hregistry
  constructor
  case registry_eq => rw [hregistry, add_append h.advisors_eq, submitted_next hq, h.registry_eq]
  case sum_eq =>
    rw [recent_next hq, List.map_append, List.sum_append, List.map_singleton, List.sum_singleton, hcount,
      h.sum_eq, hregistry, ← size_add, Nat.add_comm]
  case isFresh => exact q.isFresh_perform henabled' h.isFresh
  case keys_eq =>
    rw [recent_next hq]
    intro e he d name hname hok hwanted
    rcases List.mem_append.1 he with he | he
    · exact h.keys_eq e he d name hname hok hwanted
    · obtain rfl := List.mem_singleton.1 he
      have hregisters := q.registers_of_registration? henabled' h.isFresh hname
      rw [← h.discoverer]
      exact hregisters.keys_eq hok ((h.isEligible d.name).trans hwanted)

theorem Kept.next (h : Kept r s) (henabled : r.properties.enabled = true) (q : Request) :
    Kept r (s.next q) := by
  cases q with
  | clear => exact h.next_clear
  | register | registerWith | add | elsewhere => exact h.next_of_add henabled rfl

theorem Kept.run (h : Kept r s) (henabled : r.properties.enabled = true) (requests : List Request) :
    Kept r (s.run requests) := by
  induction requests generalizing s with
  | nil => exact h
  | cons q rest ih => exact ih (h.next henabled q)

end Diary

/-- A registry keeps the first advisor of each key, in the order in which they are submitted. A
registration with an error is as if it were not made, and so is one that is made again. -/
theorem keeps_first_submitted (hempty : r.advisors = []) (henabled : r.properties.enabled = true)
    (hl : l.IsFresh) (requests : List Request) :
    let s := Diary.run ⟨r, l, []⟩ requests
    s.registry = { r with advisors := s.submitted.eraseDupsBy fun a b => b.key == a.key } ∧
      (s.registry.advisors.map Advisor.key).Nodup ∧
      (s.recent.map Entry.count).sum = s.registry.size ∧
      (∀ (q : Request) (d : AspectDefinition) (name : String), q.registration? = some (d, name) →
        (q.perform s.registry s.loom).1.isOk = false ∨ r.isEligible d.name = false →
          (q.perform s.registry s.loom).2.1 = s.registry) ∧
      ∀ e ∈ s.recent, ∀ (d : AspectDefinition) (name : String),
        e.request.registration? = some (d, name) → e.reply.isOk = true →
        ∀ q : Request, q.registration? = some (d, name) →
          (q.perform s.registry s.loom).1 = .ok 0 ∧ (q.perform s.registry s.loom).2.1 = s.registry := by
  intro s
  have hkept : Diary.Kept r s := (Diary.kept_init hempty hl).run henabled requests
  have hregisters : ∀ (q : Request) (d : AspectDefinition) (name : String),
      q.registration? = some (d, name) → Registers s.registry d name (q.submitted s.registry s.loom)
        (q.perform s.registry s.loom).1 (q.perform s.registry s.loom).2.1 :=
    fun q d name hq => q.registers_of_registration? (hkept.enabled henabled) hkept.isFresh hq
  refine ⟨hkept.registry_eq, ?_, hkept.sum_eq, ?_, ?_⟩
  · rw [hkept.advisors_eq]
    exact Advisor.nodup_firsts _
  · intro q d name hq hnot
    rw [← hkept.isEligible] at hnot
    exact (hregisters q d name hq).eq_self hnot
  · intro e he d name hname hok q hq
    -- The keys are those of the first time, and each of them is among the keys that were kept.
    apply (hregisters q d name hq).eq_of_known e.submitted
    · rw [hkept.isEligible, hkept.discoverer]
      exact hkept.keys_eq e he d name hname hok
    · rw [hkept.advisors_eq]
      intro key hkey
      obtain ⟨a, ha, rfl⟩ := List.mem_map.1 hkey
      exact Advisor.key_mem_firsts (List.mem_flatMap.2 ⟨e, he, ha⟩)

/-- The advice of one key twice, behind an aspect that has an error at its second advice. -/
theorem audit_kept_once :
    let audit := AspectDefinition.idle "audit" 10
      [("enter", "Before", "execution(* save(..))"), ("leave", "After", "execution(* save(..))"),
        ("enter", "After", "execution(* save(..))")]
    let broken := AspectDefinition.idle "broken" 0
      [("enter", "Before", "execution(* save(..))"), ("leave", "After", "execution(")]
    let s := Diary.run ⟨standard, .empty 0, []⟩ [.register audit, .clear, .register broken, .register audit]
    s.recent.map (fun e => e.reply.toOption) = [none, some 2] ∧ s.submitted.length = 3 ∧
      (s.recent.map Entry.count).sum = s.registry.size ∧
      ∀ q : Request, q.registration? = some (audit, "audit") →
        (q.perform s.registry s.loom).1 = .ok 0 ∧ (q.perform s.registry s.loom).2.1 = s.registry := by
  intro audit broken s
  let before := Diary.run ⟨standard, .empty 0, []⟩ [.register audit, .clear, .register broken]
  have hrecent : s.recent = before.recent ++ [before.entry (.register audit)] := Diary.recent_next rfl
  have hlast : before.entry (.register audit) ∈ s.recent := by
    rw [hrecent]
    exact List.mem_append_right _ (List.mem_singleton_self _)
  obtain ⟨-, -, hsum, -, hagain⟩ :=
    keeps_first_submitted (r := standard) rfl rfl (Loom.isFresh_empty 0)
      [.register audit, .clear, .register broken, .register audit]
  exact ⟨by decide +kernel, by decide +kernel, hsum, hagain _ hlast audit "audit" rfl (by decide +kernel)⟩

end Registry

end Weaving
