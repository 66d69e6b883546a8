import Weaving.Lifecycle.Container

namespace Weaving

/-- A source of aspect instances. Each factory with a state of its own has a cell in
the world. A constructor counts its calls in a cell that factories may share. -/
inductive Factory where
  | singleton (name : String) (i : Instance) (order : Int)
  | simple (cell counter : Nat) (name : String) (order : Int) (constructor : Nat → Program)
  | bean (cell : Nat) (name : String) (order : Int) (plain : Bool)
  | lazy (cell : Nat) (delegate : Factory)
  | perTarget (cell : Nat) (delegate : Factory)

/-- The order of what has no order of its own. -/
def lowestPrecedence : Int := 2147483647

namespace Factory

def name : Factory → String
  | singleton name _ _ | simple _ _ name _ _ | bean _ name _ _ => name
  | lazy _ delegate | perTarget _ delegate => delegate.name

def order : Factory → Int
  | singleton _ _ order | simple _ _ _ order _ | bean _ _ order _ => order
  | lazy _ delegate | perTarget _ delegate => delegate.order

/-- The lock under which the factory creates instances. The container guards its own
singletons, and lends its lock to other beans unless it is a plain one. -/
def lock (c : Container) : Factory → Option Lock
  | singleton _ _ _ => none
  | simple cell _ _ _ _ => some (.own cell)
  | bean cell name _ plain =>
    match c.isSingleton name with
    | .ok true => none
    | _ => some (if plain then .own cell else .container)
  | lazy _ delegate | perTarget _ delegate => delegate.lock c

end Factory

/-- The aspect that a factory keeps for a target. The target itself is not kept alive. -/
structure Entry where
  target : Nat
  address : Nat
  aspect : Instance

/-- A factory under a name. A managed one does not show its inner workings. -/
structure Handle where
  factory : Factory
  managed : Bool

/-- Chooses the addresses of new objects. None that is in use is chosen; which one it is may
depend on how many objects were made before. -/
structure Allocator where
  place : Nat → List Nat → Nat
  place_notMem : ∀ serial used, place serial used ∉ used

/-- Places an object above all that are in use, where a dead one may have been. -/
def Allocator.upward : Allocator where
  place _ used := used.foldr max 0 + 1
  place_notMem _ used h := by
    have hle : ∀ l : List Nat, ∀ a ∈ l, a ≤ l.foldr max 0 := by
      intro l
      induction l with
      | nil => simp
      | cons b rest ih =>
          intro a ha
          rcases List.mem_cons.1 ha with rfl | ha
          · exact Nat.le_max_left _ _
          · exact Nat.le_trans (ih a ha) (Nat.le_max_right _ _)
    exact Nat.not_succ_le_self _ (hle used _ h)

/-- The objects of a running program. Reports and trace stand in reverse. -/
structure World where
  depth : Nat
  allocator : Allocator
  container : Container
  factories : List (String × Handle)
  serials : Nat → Nat
  stored : Nat → Option Instance
  entries : Nat → List Entry
  nextCell : Nat
  nextObject : Nat
  targets : List (String × Target)
  held : List Target
  reports : List Outcome
  trace : List Event

/-- The value of a function changed at one point. -/
def change {α : Type} (f : Nat → α) (cell : Nat) (a : α) : Nat → α :=
  fun c => if c = cell then a else f c

namespace World

/-- A world without objects, in which constructors may nest to the given depth. -/
def empty (depth : Nat) : World where
  depth := depth
  allocator := .upward
  container := .empty
  factories := []
  serials := fun _ => 0
  stored := fun _ => none
  entries := fun _ => []
  nextCell := 0
  nextObject := 0
  targets := []
  held := []
  reports := []
  trace := []

def record (w : World) (e : Event) : World := { w with trace := e :: w.trace }

def report (w : World) (o : Outcome) : World := { w with reports := o :: w.reports }

/-- Makes a new object of a value. -/
def allocate (w : World) (v : Value) : Instance × World :=
  (⟨w.nextObject, v⟩, { w with nextObject := w.nextObject + 1 })

/-- The addresses that are not free: those of targets that have a name or on which a call is
made, and those that factories remember. -/
def addresses (w : World) : List Nat :=
  w.targets.map (·.2.address) ++ w.held.map (·.address) ++
    (List.range w.nextCell).flatMap fun cell => (w.entries cell).map (·.address)

/-- Makes a new target at a free address. -/
def allocateTarget (w : World) (v : Value) : Target × World :=
  (⟨w.nextObject, w.allocator.place w.nextObject w.addresses, v⟩,
    { w with nextObject := w.nextObject + 1 })

/-- Reserves a cell for the state of a factory. -/
def newCell (w : World) : Nat × World := (w.nextCell, { w with nextCell := w.nextCell + 1 })

/-- A target lives as long as it has a name or a call is made on it. -/
def isLive (w : World) (id : Nat) : Bool :=
  w.targets.any (·.2.id == id) || w.held.any (·.id == id)

/-- The entries whose targets live. -/
def liveEntries (w : World) (cell : Nat) : List Entry :=
  (w.entries cell).filter fun e => w.isLive e.target

def entryAt? (entries : List Entry) (address : Nat) : Option Entry :=
  entries.find? fun e => e.address == address

/-- Drops the entries of dead targets and says how many they were. -/
def purge (w : World) (cell : Nat) : Nat × World :=
  let live := w.liveEntries cell
  ((w.entries cell).length - live.length, { w with entries := change w.entries cell live })

def dropTarget (w : World) (name : String) : World :=
  { w with targets := w.targets.filter fun e => e.1 != name }

def nameTarget (w : World) (name : String) (t : Target) : World :=
  { w with targets := (name, t) :: (w.dropTarget name).targets }

def nameFactory (w : World) (id : String) (h : Handle) : World :=
  { w with factories := (id, h) :: w.factories.filter fun e => e.1 != id }

end World

end Weaving
