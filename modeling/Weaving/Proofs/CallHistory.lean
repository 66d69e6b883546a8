import Weaving.Lifecycle.Execution

namespace Weaving

/-- Whatever its calls answer, a program calls only what is allowed. -/
def Program.Keeps (allowed : Operation → Prop) : Program → Prop
  | .done _ => True
  | .call operation next => allowed operation ∧ ∀ outcome, (next outcome).Keeps allowed
  | .report _ rest | .record _ rest => rest.Keeps allowed

theorem Program.keeps_of_forall {allowed : Operation → Prop} (h : ∀ operation, allowed operation) :
    ∀ program : Program, program.Keeps allowed
  | .done _ => trivial
  | .call operation next => ⟨h operation, fun outcome => keeps_of_forall h (next outcome)⟩
  | .report _ rest | .record _ rest => keeps_of_forall h rest

namespace World

/-- The program that a request for a bean starts, with the world in which it runs. -/
def supplier? (name : String) (w : World) : Option (Program × World) :=
  match w.container.cached? name, w.container.definition? name with
  | none, some (_, supplier) =>
    if name ∈ w.container.inCreation then none
    else some (supplier (w.container.calls name + 1), w.entering name)
  | _, _ => none

section Request

variable {name : String} {w u : World} {program : Program}

theorem supplier?_eq_some (h : w.supplier? name = some (program, u)) :
    w.container.cached? name = none ∧ name ∉ w.container.inCreation ∧ u = w.entering name ∧
      ∃ bean supplier, w.container.definition? name = some (bean, supplier) ∧
        program = supplier (w.container.calls name + 1) := by
  rw [supplier?] at h
  split at h
  · next bean supplier hcached hdefinition =>
      split at h
      · cases h
      · next hnew =>
          cases h
          exact ⟨hcached, hnew, rfl, bean, supplier, hdefinition, rfl⟩
  · cases h

theorem getBean_of_supplier?_none {build : Build} (h : w.supplier? name = none) :
    (getBean build name w).2 = w := by
  rcases getBean_cases build name w with ⟨i, -, heq⟩ | ⟨hcached, ⟨-, heq⟩ | ⟨bean, supplier, hdefinition,
    ⟨-, heq⟩ | hbuilt⟩⟩
  · rw [heq]
  · rw [heq]
  · rw [heq]
  · by_cases hnew : name ∈ w.container.inCreation
    · rw [getBean_of_inCreation hcached hdefinition hnew]
    · simp [supplier?, hcached, hdefinition, hnew] at h

end Request

/-- The program that a factory starts to make an instance, with the world in which it runs. -/
def constructor? : Factory → World → Option (Program × World)
  | .simple _ counter _ _ constructor, w =>
    let serial := w.serials counter + 1
    some (constructor serial, { w with serials := change w.serials counter serial })
  | .bean _ name _ _, w => w.supplier? name
  | .lazy cell delegate, w => if (w.stored cell).isSome then none else constructor? delegate w
  | .singleton _ _ _, _ | .perTarget _ _, _ => none

def keptFor? (w : World) (cell : Nat) (t : Target) : Option Entry :=
  (entryAt? (w.entries cell) t.address).filter fun e => w.isLive e.target

/-- The program that a factory starts to make an instance for a target. -/
def constructorFor? (f : Factory) (target : Option Target) (w : World) : Option (Program × World) :=
  match f, target with
  | .perTarget cell delegate, some t =>
    if (w.keptFor? cell t).isSome then none else constructor? delegate w
  | f, _ => constructor? f w

def holding (w : World) (t : Target) : World := { w with held := t :: w.held }

/-- The program that an operation starts, with the world in which it runs. No operation starts more
than one. -/
def started? : Operation → World → Option (Program × World)
  | .bean name, w => w.supplier? name
  | .get id, w => (w.factories.lookup id).bind fun h => constructor? h.factory w
  | .getFor id target, w =>
    (w.factories.lookup id).bind fun h =>
      match target.bind (w.targets.lookup ·) with
      | none => constructorFor? h.factory none w
      | some t => constructorFor? h.factory (some t) (w.holding t)
  | _, _ => none

/-- The world in which what started a program goes on when the program has ended. -/
def resumed (build : Build) (start : Option (Program × World)) (w : World) : World :=
  match start with
  | some (program, u) => (build program u).2
  | none => w

end World

/-- An operation that is executed in a world, with the depth to which constructors may nest in it. -/
structure Call where
  depth : Nat
  operation : Operation
  before : World

namespace Call

def outcome (c : Call) : Outcome := (World.execute c.depth c.operation c.before).1

def after (c : Call) : World := (World.execute c.depth c.operation c.before).2

/-- The program that runs inside of a call, with the world in which it starts. -/
def program? : Call → Option (Program × World)
  | ⟨0, _, _⟩ => none
  | ⟨_ + 1, operation, w⟩ => w.started? operation

/-- The world in which a call goes on when the program inside of it has ended. -/
def resumed (c : Call) : World :=
  World.resumed (Program.run (World.execute (c.depth - 1))) c.program? c.before

theorem resumed_of_none {c : Call} (h : c.program? = none) : c.resumed = c.before := by
  rw [resumed, h]
  rfl

theorem resumed_of_run {depth : Nat} {operation : Operation} {w u u' : World} {program : Program}
    {result : Except String Value} (h : w.started? operation = some (program, u))
    (hrun : program.run (World.execute depth) u = (result, u')) :
    resumed ⟨depth + 1, operation, w⟩ = u' := by
  rw [resumed, program?, h]
  exact congrArg Prod.snd hrun

end Call

/-- The calls of a program. Each stands behind those that are made inside of it. -/
def Program.calls (execute : Operation → World → Outcome × World)
    (inside : Operation → World → List Call) : Program → World → List Call
  | .done _, _ => []
  | .call operation next, w =>
    let answer := execute operation w
    inside operation w ++ (next answer.1).calls execute inside answer.2
  | .report outcome rest, w => rest.calls execute inside (w.report outcome)
  | .record event rest, w => rest.calls execute inside (w.record event)

namespace World

/-- The call of an operation, behind the calls that are made inside of it. -/
def calls : Nat → Operation → World → List Call
  | 0, operation, w => [⟨0, operation, w⟩]
  | depth + 1, operation, w =>
    let inside := match started? operation w with
      | some (program, u) => program.calls (execute depth) (calls depth) u
      | none => []
    inside ++ [⟨depth + 1, operation, w⟩]

/-- All calls of operations that are executed in turn, in the order in which they end. -/
def history : List Operation → World → List Call
  | [], _ => []
  | operation :: rest, w =>
    calls w.depth operation { w with reports := [] } ++ history rest (w.after operation)

/-- A property of worlds and the calls made up to them, and a relation of worlds, that the calls of a
run carry from one world to the next: a call either starts no program, or what it starts carries them
to the world in which the call goes on. -/
structure Carried (allowed : Operation → Prop) (inv : Nat → List Call → World → Prop)
    (frame : World → World → Prop) : Prop where
  refl (w : World) : frame w w
  trans {u v w : World} (h : frame u v) (h' : frame v w) : frame u w
  noted {depth : Nat} {l : List Call} {w : World} (reports : List Outcome) (trace : List Event)
    (h : inv depth l w) : inv depth l { w with reports := reports, trace := trace } ∧
      frame w { w with reports := reports, trace := trace }
  quiet {c : Call} {l : List Call} (hallowed : allowed c.operation) (h : inv c.depth l c.before)
    (hprogram : c.program? = none) : inv c.depth (l ++ [c]) c.after ∧ frame c.before c.after
  starts {depth : Nat} {operation : Operation} {w u : World} {program : Program} {l : List Call}
    (hallowed : allowed operation) (h : inv (depth + 1) l w)
    (hprogram : w.started? operation = some (program, u)) :
    program.Keeps allowed ∧ inv depth l u
  ends {depth : Nat} {operation : Operation} {w u u' : World} {program : Program} {l l' : List Call}
    {result : Except String Value} (hallowed : allowed operation) (h : inv (depth + 1) l w)
    (hprogram : w.started? operation = some (program, u))
    (hrun : program.run (execute depth) u = (result, u')) (h' : inv depth l' u') (hframe : frame u u') :
    inv (depth + 1) (l' ++ [⟨depth + 1, operation, w⟩]) (execute (depth + 1) operation w).2 ∧
      frame w (execute (depth + 1) operation w).2

theorem forall_prefix_concat {P : List Call → Call → Prop} {l : List Call} {c : Call} (hlast : P l c)
    (h : ∀ l' c', l' ++ [c'] <+: l → P l' c') : ∀ l' c', l' ++ [c'] <+: l ++ [c] → P l' c' := by
  intro l' c' hbegins
  rcases List.prefix_concat_iff.1 hbegins with heq | hbegins
  · obtain ⟨rfl, hc⟩ := List.append_inj' heq rfl
    cases hc
    exact hlast
  · exact h l' c' hbegins

namespace Carried

variable {allowed : Operation → Prop} {inv : Nat → List Call → World → Prop}
  {frame : World → World → Prop} {depth : Nat} {l : List Call}

theorem program (hc : Carried allowed inv frame)
    (hcalls : ∀ operation l w, allowed operation → inv depth l w →
      inv depth (l ++ calls depth operation w) (execute depth operation w).2 ∧
        frame w (execute depth operation w).2) :
    ∀ (program : Program) (l : List Call) (w : World), program.Keeps allowed → inv depth l w →
      inv depth (l ++ program.calls (execute depth) (calls depth) w) (program.run (execute depth) w).2 ∧
        frame w (program.run (execute depth) w).2
  | .done _, l, w, _, h => by
      rw [Program.calls, List.append_nil]
      exact ⟨h, hc.refl w⟩
  | .call operation next, l, w, ⟨hallowed, hnext⟩, h => by
      obtain ⟨hcall, hframe⟩ := hcalls operation l w hallowed h
      obtain ⟨hrest, hframe'⟩ := hc.program hcalls (next (execute depth operation w).1) _ _ (hnext _) hcall
      rw [Program.calls, ← List.append_assoc]
      exact ⟨hrest, hc.trans hframe hframe'⟩
  | .report outcome rest, l, w, hrest, h => by
      obtain ⟨hnoted, hframe⟩ := hc.noted (outcome :: w.reports) w.trace h
      obtain ⟨hrun, hframe'⟩ := hc.program hcalls rest l (w.report outcome) hrest hnoted
      exact ⟨hrun, hc.trans hframe hframe'⟩
  | .record event rest, l, w, hrest, h => by
      obtain ⟨hnoted, hframe⟩ := hc.noted w.reports (event :: w.trace) h
      obtain ⟨hrun, hframe'⟩ := hc.program hcalls rest l (w.record event) hrest hnoted
      exact ⟨hrun, hc.trans hframe hframe'⟩

theorem calls (hc : Carried allowed inv frame) (depth : Nat) (operation : Operation) (l : List Call)
    (w : World) (hallowed : allowed operation) (h : inv depth l w) :
    inv depth (l ++ calls depth operation w) (execute depth operation w).2 ∧
      frame w (execute depth operation w).2 := by
  induction depth generalizing operation l w with
  | zero => exact hc.quiet (c := ⟨0, operation, w⟩) hallowed h rfl
  | succ depth ih =>
      cases hprogram : w.started? operation with
      | none =>
          simp only [World.calls, hprogram, List.nil_append]
          exact hc.quiet (c := ⟨depth + 1, operation, w⟩) hallowed h hprogram
      | some start =>
          obtain ⟨program, u⟩ := start
          obtain ⟨hkeeps, hstart⟩ := hc.starts hallowed h hprogram
          obtain ⟨hinside, hframe⟩ := hc.program ih program l u hkeeps hstart
          simp only [World.calls, hprogram, ← List.append_assoc]
          exact hc.ends hallowed h hprogram rfl hinside hframe

/-- What is carried has held behind each call, of the calls made up to it. -/
theorem always (hc : Carried allowed inv frame) :
    Carried allowed
      (fun depth l w => inv depth l w ∧ ∀ l' c, l' ++ [c] <+: l → ∃ depth', inv depth' (l' ++ [c]) c.after)
      frame where
  refl := hc.refl
  trans := hc.trans
  noted reports trace h :=
    have hnoted := hc.noted reports trace h.1
    ⟨⟨hnoted.1, h.2⟩, hnoted.2⟩
  quiet hallowed h hprogram :=
    have hquiet := hc.quiet hallowed h.1 hprogram
    ⟨⟨hquiet.1, forall_prefix_concat ⟨_, hquiet.1⟩ h.2⟩, hquiet.2⟩
  starts hallowed h hprogram :=
    have hstarts := hc.starts hallowed h.1 hprogram
    ⟨hstarts.1, hstarts.2, h.2⟩
  ends {depth operation w _ _ _ _ _ _} hallowed h hprogram hrun h' hframe :=
    have hends := hc.ends hallowed h.1 hprogram hrun h'.1 hframe
    ⟨⟨hends.1, forall_prefix_concat (c := ⟨depth + 1, operation, w⟩) ⟨_, hends.1⟩ h'.2⟩, hends.2⟩

/-- Where each of the calls behind `l` began, a property held of the calls that had ended by then. -/
def Begun (inv : Nat → List Call → World → Prop) (l log : List Call) : Prop :=
  ∀ l' c, l <+: l' → l' ++ [c] <+: log →
    ∃ ended, inv c.depth ended c.before ∧ ended ++ World.calls c.depth c.operation c.before = l' ++ [c]

theorem begun_nil (inv : Nat → List Call → World → Prop) (l : List Call) : Begun inv l (l ++ []) := by
  intro l' c hl hbegins
  rw [List.append_nil] at hbegins
  have hlt := Nat.le_trans hbegins.length_le hl.length_le
  rw [List.length_append] at hlt
  exact absurd hlt (Nat.not_succ_le_self _)

theorem Begun.trans {l m n : List Call} (h : Begun inv l m) (hm : m <+: n) (h' : Begun inv m n) :
    Begun inv l n := by
  intro l' c hl hbegins
  rcases List.prefix_or_prefix_of_prefix hbegins hm with hbefore | hbehind
  · exact h l' c hl hbefore
  · rcases List.prefix_concat_iff.1 hbehind with rfl | hbehind
    · exact h l' c hl (List.prefix_refl _)
    · exact h' l' c hbehind hbegins

/-- The call itself began before the calls inside of it. -/
theorem Begun.call {l inside : List Call} {c : Call} (hinside : Begun inv l (l ++ inside))
    (h : inv c.depth l c.before) (hcalls : World.calls c.depth c.operation c.before = inside ++ [c]) :
    Begun inv l (l ++ World.calls c.depth c.operation c.before) := by
  intro l' c' hl hbegins
  rw [hcalls, ← List.append_assoc] at hbegins
  rcases List.prefix_concat_iff.1 hbegins with heq | hbegins
  · obtain ⟨rfl, hc⟩ := List.append_inj' heq rfl
    cases hc
    exact ⟨l, h, by rw [hcalls, List.append_assoc]⟩
  · exact hinside l' c' hl hbegins

theorem program_begun (hc : Carried allowed inv frame)
    (hcalls : ∀ operation l w, allowed operation → inv depth l w →
      Begun inv l (l ++ World.calls depth operation w)) :
    ∀ (program : Program) (l : List Call) (w : World), program.Keeps allowed → inv depth l w →
      Begun inv l (l ++ program.calls (execute depth) (World.calls depth) w)
  | .done _, l, _, _, _ => begun_nil inv l
  | .call operation next, l, w, ⟨hallowed, hnext⟩, h => by
      have hcall := (hc.calls depth operation l w hallowed h).1
      rw [Program.calls, ← List.append_assoc]
      exact (hcalls operation l w hallowed h).trans (List.prefix_append _ _)
        (hc.program_begun hcalls (next (execute depth operation w).1) _ _ (hnext _) hcall)
  | .report outcome rest, l, w, hrest, h =>
      hc.program_begun hcalls rest l _ hrest (hc.noted (outcome :: w.reports) w.trace h).1
  | .record event rest, l, w, hrest, h =>
      hc.program_begun hcalls rest l _ hrest (hc.noted w.reports (event :: w.trace) h).1

/-- What is carried has held where each call began. -/
theorem begun (hc : Carried allowed inv frame) (depth : Nat) (operation : Operation) (l : List Call)
    (w : World) (hallowed : allowed operation) (h : inv depth l w) :
    Begun inv l (l ++ World.calls depth operation w) := by
  induction depth generalizing operation l w with
  | zero => exact (begun_nil inv l).call (c := ⟨0, operation, w⟩) h rfl
  | succ depth ih =>
      cases hprogram : w.started? operation with
      | none =>
          refine (begun_nil inv l).call (c := ⟨depth + 1, operation, w⟩) h ?_
          simp only [World.calls, hprogram]
      | some start =>
          obtain ⟨program, u⟩ := start
          obtain ⟨hkeeps, hstart⟩ := hc.starts hallowed h hprogram
          have hinside := hc.program_begun ih program l u hkeeps hstart
          refine hinside.call (c := ⟨depth + 1, operation, w⟩) h ?_
          simp only [World.calls, hprogram]

end Carried

/-- What each of the operations carries on, with the calls that it makes, is carried on by all of them. -/
theorem history_induction (inv : List Call → World → Prop) (operations : List Operation)
    (hstep : ∀ operation ∈ operations, ∀ l w, inv l w →
      inv (l ++ calls w.depth operation { w with reports := [] }) (w.after operation))
    {l : List Call} {w : World} (h : inv l w) :
    inv (l ++ history operations w) (operations.foldl after w) := by
  induction operations generalizing l w with
  | nil =>
      rw [history, List.append_nil]
      exact h
  | cons operation rest ih =>
      rw [history, ← List.append_assoc]
      exact ih (fun o ho => hstep o (List.mem_cons_of_mem _ ho)) (hstep operation List.mem_cons_self l w h)

/-- What calls carry on holds behind all operations, behind each call, and where each call began. -/
theorem Carried.history {inv : List Call → World → Prop} {frame : World → World → Prop}
    (hc : Carried (fun _ => True) (fun _ => inv) frame) (operations : List Operation) {w : World}
    (h : inv [] w) :
    inv (history operations w) (operations.foldl after w) ∧
      ∀ l c, l ++ [c] <+: history operations w → inv (l ++ [c]) c.after ∧
        ∃ ended, inv ended c.before ∧ ended ++ World.calls c.depth c.operation c.before = l ++ [c] := by
  have hall := history_induction
    (fun l w => (inv l w ∧ ∀ l' c, l' ++ [c] <+: l → ∃ _ : Nat, inv (l' ++ [c]) c.after) ∧
      Begun (fun _ => inv) [] l)
    operations (fun operation _ l w h => ?_) (l := []) ⟨⟨h, by simp⟩, begun_nil _ []⟩
  · obtain ⟨⟨hend, halways⟩, hbegun⟩ := hall
    refine ⟨hend, fun l c hbegins => ⟨?_, hbegun l c List.nil_prefix hbegins⟩⟩
    obtain ⟨-, hafter⟩ := halways l c hbegins
    exact hafter
  · obtain ⟨⟨hinv, halways⟩, hbegun⟩ := h
    have hcleared := (@Carried.noted _ _ _ hc w.depth l w [] w.trace hinv).1
    refine ⟨(hc.always.calls w.depth operation l _ trivial ⟨hcleared, halways⟩).1, ?_⟩
    exact hbegun.trans (List.prefix_append _ _) (hc.begun w.depth operation l _ trivial hcleared)

end World

end Weaving
