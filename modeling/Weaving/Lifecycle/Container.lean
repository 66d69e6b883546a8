import Weaving.Lifecycle.Operation
import Weaving.Lookup

namespace Weaving

/-- The beans of a program: how to make them, how often each was made, the shared
instances, and those whose making has begun. -/
structure Container where
  definitions : List (BeanInfo × (Nat → Program))
  calls : String → Nat
  singletons : List (String × Instance)
  inCreation : List String

namespace Container

def empty : Container := ⟨[], fun _ => 0, [], []⟩

def definition? (c : Container) (name : String) : Option (BeanInfo × (Nat → Program)) :=
  c.definitions.find? fun d => d.1.name == name

def cached? (c : Container) (name : String) : Option Instance := c.singletons.lookup name

def contains (c : Container) (name : String) : Bool :=
  (c.definition? name).isSome || (c.cached? name).isSome

/-- A definition is never replaced. -/
def define (c : Container) (bean : BeanInfo) (supplier : Nat → Program) :
    Except ContainerError Container :=
  if (c.definition? bean.name).isSome then .error (.beanAlreadyExists bean.name)
  else .ok { c with definitions := c.definitions ++ [(bean, supplier)] }

/-- Keeps an instance under a name, over an earlier one. -/
def store (c : Container) (name : String) (i : Instance) : Container :=
  { c with singletons := (name, i) :: c.singletons.filter fun e => e.1 != name }

/-- An instance made elsewhere may not take a name that has one. -/
def register (c : Container) (name : String) (i : Instance) : Except ContainerError Container :=
  if (c.cached? name).isSome then .error (.beanAlreadyExists name) else .ok (c.store name i)

def destroy (c : Container) : Container := { c with singletons := [] }

/-- A definition decides the scope; a bare instance is a singleton. -/
def isSingleton (c : Container) (name : String) : Except ContainerError Bool :=
  match c.definition? name with
  | some d => .ok (d.1.scope = .singleton)
  | none => if (c.cached? name).isSome then .ok true else .error (.beanNotFound name)

def typeName (c : Container) (name : String) : Except ContainerError String :=
  match c.definition? name with
  | some d => .ok d.1.typeName
  | none => .error (.beanNotFound name)

def order? (c : Container) (name : String) : Option Int := (c.definition? name).bind (·.1.order)

/-- The names of all beans, sorted. -/
def names (c : Container) : List String :=
  ((c.definitions.map (·.1.name) ++ c.singletons.map (·.1)).eraseDups).mergeSort (· ≤ ·)

/-- Begins to make a bean and counts the call. -/
def enter (c : Container) (name : String) : Container :=
  { c with
    inCreation := name :: c.inCreation
    calls := fun n => if n = name then c.calls n + 1 else c.calls n }

def leave (c : Container) (name : String) : Container :=
  { c with inCreation := c.inCreation.erase name }

section Lemmas

variable (c : Container) (name other : String) (i : Instance)

@[simp]
theorem cached?_leave : (c.leave name).cached? other = c.cached? other := rfl

theorem calls_enter : (c.enter name).calls name = c.calls name + 1 := if_pos rfl

theorem cached?_store :
    (c.store name i).cached? other = if other = name then some i else c.cached? other := by
  by_cases h : other = name
  · simp [cached?, store, h]
  · have hne : (other == name) = false := by simp [h]
    simp [cached?, store, List.lookup_cons, hne, h, lookup_filter_ne c.singletons h]

theorem definition?_eq_of_definitions_eq {c d : Container} (h : d.definitions = c.definitions)
    (name : String) : d.definition? name = c.definition? name := by
  rw [definition?, definition?, h]

end Lemmas

section Answers

variable {c d : Container} {name : String} {i : Instance} {bean : BeanInfo} {supplier : Nat → Program}

theorem contains_iff : c.contains name = true ↔
    (c.definition? name).isSome = true ∨ (c.cached? name).isSome = true := by
  simp [contains]

theorem isSome_definition?_iff :
    (c.definition? name).isSome = true ↔ name ∈ c.definitions.map (·.1.name) := by
  simp [definition?, List.find?_isSome]

theorem isSome_cached?_iff : (c.cached? name).isSome = true ↔ name ∈ c.singletons.map (·.1) := by
  rw [cached?, List.lookup_isSome_iff, List.mem_map]
  exact exists_congr fun e => and_congr_right fun _ => beq_iff_eq.trans eq_comm

theorem mem_names_iff : name ∈ c.names ↔ c.contains name = true := by
  rw [contains_iff, isSome_definition?_iff, isSome_cached?_iff, names, List.mem_mergeSort,
    List.mem_eraseDups, List.mem_append]

theorem define_eq_ok (h : c.define bean supplier = .ok d) :
    d = { c with definitions := c.definitions ++ [(bean, supplier)] } := by
  rw [define] at h
  split at h
  · cases h
  · exact (Except.ok.inj h).symm

theorem register_eq_ok (h : c.register name i = .ok d) : c.cached? name = none ∧ d = c.store name i := by
  rw [register] at h
  split at h
  · cases h
  · next hnone => exact ⟨by simpa using hnone, (Except.ok.inj h).symm⟩

theorem definition?_of_define {definition : BeanInfo × (Nat → Program)}
    (h : c.define bean supplier = .ok d) (hc : c.definition? name = some definition) :
    d.definition? name = some definition := by
  rw [define_eq_ok h, definition?, List.find?_append]
  exact congrArg (Option.or · _) hc

theorem isSingleton_eq_ok_false (h : c.isSingleton name = .ok false) :
    ∃ bean supplier, c.definition? name = some (bean, supplier) ∧ bean.scope = .prototype := by
  rw [isSingleton] at h
  split at h
  · next definition hdefinition =>
      refine ⟨definition.1, definition.2, hdefinition, ?_⟩
      cases hscope : definition.1.scope with
      | singleton => simp [hscope] at h
      | prototype => rfl
  · split at h <;> cases h

end Answers

end Container

end Weaving
