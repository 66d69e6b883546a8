import Weaving.Lifecycle.World

namespace Weaving.World

/-- A way to run the program of a constructor. -/
abbrev Build := Program → World → Except String Value × World

variable (build : Build)

/-- The bean of a name. A shared instance is made once; a bean that is requested while
it is being made depends on itself. -/
def getBean (name : String) (w : World) : Except ContainerError Instance × World :=
  match w.container.cached? name with
  | some i => (.ok i, w)
  | none =>
    match w.container.definition? name with
    | none => (.error (.beanNotFound name), w)
    | some (bean, supplier) =>
      if name ∈ w.container.inCreation then (.error (.circularDependency name), w)
      else
        let entered := { w with container := w.container.enter name }
        match build (supplier (entered.container.calls name)) entered with
        | (.error cause, w) =>
          (.error (.creationFailed name cause), { w with container := w.container.leave name })
        | (.ok v, w) =>
          let (i, w) := w.allocate v
          let left := w.container.leave name
          match bean.scope with
          | .singleton => (.ok i, { w with container := left.store name i })
          | .prototype => (.ok i, { w with container := left })

/-- The world in which the supplier of a bean runs. -/
def entering (w : World) (name : String) : World := { w with container := w.container.enter name }

/-- The world behind a supplier that failed. -/
def leaving (w : World) (name : String) : World := { w with container := w.container.leave name }

/-- The bean of a supplier that succeeded, and the world behind it. Only a shared bean is kept. -/
def finishing (w : World) (scope : Scope) (name : String) (v : Value) : Instance × World :=
  let (i, w) := w.allocate v
  let left := w.container.leave name
  (i, { w with container := match scope with
    | .singleton => left.store name i
    | .prototype => left })

section Finishing

variable (w : World) (scope : Scope) (name other : String) (v : Value)

theorem finishing_container :
    (w.finishing scope name v).2.container = match scope with
      | .singleton => (w.container.leave name).store name (w.allocate v).1
      | .prototype => w.container.leave name := by
  cases scope <;> rfl

theorem inCreation_finishing :
    (w.finishing scope name v).2.container.inCreation = w.container.inCreation.erase name := by
  cases scope <;> rfl

theorem definition?_finishing :
    (w.finishing scope name v).2.container.definition? other = w.container.definition? other := by
  cases scope <;> rfl

theorem cached?_finishing :
    (w.finishing scope name v).2.container.cached? other =
      if other = name ∧ scope = .singleton then some (w.allocate v).1
      else w.container.cached? other := by
  rw [finishing_container]
  cases scope with
  | singleton => simp [Container.cached?_store]
  | prototype => simp

end Finishing

section GetBean

variable {build} {name : String} {w w' : World}

theorem getBean_of_cached {i : Instance} (h : w.container.cached? name = some i) :
    getBean build name w = (.ok i, w) := by
  simp only [getBean, h]

theorem getBean_of_undefined (hcached : w.container.cached? name = none)
    (h : w.container.definition? name = none) :
    getBean build name w = (.error (.beanNotFound name), w) := by
  simp only [getBean, hcached, h]

variable {bean : BeanInfo} {supplier : Nat → Program} (hcached : w.container.cached? name = none)
  (hdefinition : w.container.definition? name = some (bean, supplier))

include hcached hdefinition

theorem getBean_of_inCreation (h : name ∈ w.container.inCreation) :
    getBean build name w = (.error (.circularDependency name), w) := by
  simp only [getBean, hcached, hdefinition, h, if_true]

variable (hnew : name ∉ w.container.inCreation)

include hnew

theorem getBean_of_error {cause : String}
    (h : build (supplier (w.container.calls name + 1)) (w.entering name) = (.error cause, w')) :
    getBean build name w = (.error (.creationFailed name cause), w'.leaving name) := by
  rw [entering, ← w.container.calls_enter name] at h
  simp only [getBean, hcached, hdefinition, hnew, if_false, h, leaving]

theorem getBean_of_ok {v : Value}
    (h : build (supplier (w.container.calls name + 1)) (w.entering name) = (.ok v, w')) :
    getBean build name w =
      (.ok (w'.finishing bean.scope name v).1, (w'.finishing bean.scope name v).2) := by
  rw [entering, ← w.container.calls_enter name] at h
  simp only [getBean, hcached, hdefinition, hnew, if_false, h, finishing]
  cases bean.scope <;> rfl

omit hcached hdefinition hnew in
theorem getBean_cases (build : Build) (name : String) (w : World) :
    (∃ i, w.container.cached? name = some i ∧ getBean build name w = (.ok i, w)) ∨
    w.container.cached? name = none ∧
      (w.container.definition? name = none ∧ getBean build name w = (.error (.beanNotFound name), w) ∨
      ∃ bean supplier, w.container.definition? name = some (bean, supplier) ∧
        (name ∈ w.container.inCreation ∧
            getBean build name w = (.error (.circularDependency name), w) ∨
        (∃ cause w', build (supplier (w.container.calls name + 1)) (w.entering name) = (.error cause, w') ∧
            getBean build name w = (.error (.creationFailed name cause), w'.leaving name)) ∨
        ∃ v w', build (supplier (w.container.calls name + 1)) (w.entering name) = (.ok v, w') ∧
            getBean build name w =
              (.ok (w'.finishing bean.scope name v).1, (w'.finishing bean.scope name v).2))) := by
  cases hcached : w.container.cached? name with
  | some i => exact .inl ⟨i, rfl, getBean_of_cached hcached⟩
  | none =>
      refine .inr ⟨rfl, ?_⟩
      cases hdefinition : w.container.definition? name with
      | none => exact .inl ⟨rfl, getBean_of_undefined hcached hdefinition⟩
      | some definition =>
          obtain ⟨bean, supplier⟩ := definition
          refine .inr ⟨bean, supplier, rfl, ?_⟩
          by_cases hnew : name ∈ w.container.inCreation
          · exact .inl ⟨hnew, getBean_of_inCreation hcached hdefinition hnew⟩
          · refine .inr ?_
            cases hbuild : build (supplier (w.container.calls name + 1)) (w.entering name) with
            | mk result w' =>
                cases result with
                | error cause =>
                    exact .inl ⟨cause, w', rfl, getBean_of_error hcached hdefinition hnew hbuild⟩
                | ok v => exact .inr ⟨v, w', rfl, getBean_of_ok hcached hdefinition hnew hbuild⟩

end GetBean

/-- An aspect instance from a factory. A lazy factory keeps the first instance that is
stored, even if that happens while its delegate is still at work. -/
def getInstance : Factory → World → Except EngineError Instance × World
  | .singleton _ i _, w => (.ok i, w)
  | .simple _ counter name _ constructor, w =>
    let serial := w.serials counter + 1
    match build (constructor serial) { w with serials := change w.serials counter serial } with
    | (.error cause, w) => (.error (.instantiation name cause), w)
    | (.ok v, w) =>
      let (i, w) := w.allocate v
      (.ok i, w)
  | .bean _ name _ _, w =>
    match getBean build name w with
    | (.error e, w) => (.error (.instantiation name e.message), w)
    | (.ok i, w) => (.ok i, w)
  | .lazy cell delegate, w =>
    match w.stored cell with
    | some i => (.ok i, w)
    | none =>
      match getInstance delegate w with
      | (.error e, w) => (.error e, w)
      | (.ok i, w) =>
        match w.stored cell with
        | some first => (.ok first, w)
        | none => (.ok i, { w with stored := change w.stored cell (some i) })
  | .perTarget _ delegate, w =>
    (.error (.usage ("per-target aspect '" ++ delegate.name ++
      "' requires the intercepted target object")), w)

/-- An aspect instance for a target. Only a per-target factory distinguishes targets:
it finds them by their address and forgets the dead ones when it adds a new one. -/
def getInstanceFor (f : Factory) (target : Option Target) (w : World) :
    Except EngineError Instance × World :=
  match f, target with
  | .perTarget cell delegate, some t =>
    match entryAt? (w.entries cell) t.address with
    | some e =>
      if w.isLive e.target then (.ok e.aspect, w) else create cell delegate t w
    | none => create cell delegate t w
  | f, _ => getInstance build f w
where
  create (cell : Nat) (delegate : Factory) (t : Target) (w : World) :
      Except EngineError Instance × World :=
    match getInstance build delegate w with
    | (.error e, w) => (.error e, w)
    | (.ok i, w) =>
      let live := w.liveEntries cell
      match entryAt? live t.address with
      | some e => (.ok e.aspect, { w with entries := change w.entries cell live })
      | none => (.ok i, { w with entries := change w.entries cell (⟨t.id, t.address, i⟩ :: live) })

/-- The factory for a bean that a container manages: shared beans are fetched once,
others for each call. -/
def managedFactory (bean : String) (plain : Bool) (w : World) : Except EngineError Factory × World :=
  match w.container.isSingleton bean with
  | .error e => (.error (.configuration
      ("cannot resolve aspect bean '" ++ bean ++ "': " ++ e.message)), w)
  | .ok shared =>
    let (cell, w) := w.newCell
    let order := if plain then none else w.container.order? bean
    let fetch := Factory.bean cell bean (order.getD lowestPrecedence) plain
    if shared then
      let (cell, w) := w.newCell
      (.ok (.lazy cell fetch), w)
    else (.ok fetch, w)

end Weaving.World
