import Weaving.Lifecycle.Instance

namespace Weaving

mutual

/-- What a constructor does: operations of its own, each followed by what it does with
the answer, and in the end a value or a failure. -/
inductive Program where
  | done (result : Except String Value)
  | call (operation : Operation) (next : Outcome → Program)
  | report (outcome : Outcome) (rest : Program)
  | record (event : Event) (rest : Program)

/-- An operation on the beans, factories and targets of a program. Suppliers and
constructors are given the number of their call, counted from one. -/
inductive Operation where
  | define (bean : BeanInfo) (supplier : Nat → Program)
  | register (name : String) (v : Value)
  | bean (name : String)
  | beanInfo (name : String)
  | beanNames
  | destroy
  | containerLock
  | newSingleton (id name : String) (v : Value) (order : Int)
  | newSimple (id name : String) (order : Int) (constructor : Nat → Program)
  | newBean (id bean : String) (order : Option Int) (plain : Bool)
  | newPrototype (id bean : String) (plain : Bool)
  | newManaged (id bean : String) (plain : Bool)
  | newLazy (id delegate : String)
  | newPerTarget (id delegate : String)
  | get (id : String)
  | getFor (id : String) (target : Option String)
  | lock (id : String)
  | info (id : String)
  | purge (id : String)
  | target (name : String) (v : Value)
  | alias (name existing : String)
  | drop (name : String)

end

namespace Program

/-- Performs operations and reports their outcomes, then goes on. -/
def perform (operations : List Operation) (rest : Program) : Program :=
  operations.foldr (fun o rest => .call o fun outcome => .report outcome rest) rest

/-- Gets beans in turn. The first that cannot be had is the program's failure. -/
def require (names : List String) (rest : Program) : Program :=
  names.foldr (fun name rest => .call (.bean name) fun
    | .container e => .done (.error e.message)
    | .tooDeep => .done (.error "too deep")
    | _ => rest) rest

/-- Ends with a value, unless the call is one of those that fail. -/
def finish (failures : List Nat) (message : String) (serial : Nat) (v : Value) : Program :=
  .done (if failures.contains serial then .error message else .ok v)

/-- The name of what a call makes. -/
def label (name : String) (serial : Nat) : String := name ++ "#" ++ toString serial

/-- What a call makes if its product has the given type. -/
def product (type : RuntimeType) (name : String) (serial : Nat) : Value :=
  match type with
  | .word32 => .word32 (.ofNat serial)
  | .unit => .unit
  | .texts => .texts [name, toString serial]
  | _ => .text (label name serial)

/-- A constructor that is seen in the journal and makes a text that names the call. -/
def construction (name : String) (failures : List Nat) (message : String) (serial : Nat) :
    Program :=
  .record (.construct name serial) (finish failures message serial (.text (label name serial)))

end Program

end Weaving
