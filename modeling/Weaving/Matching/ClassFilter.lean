import Weaving.Matching.NamePattern

namespace Weaving

/-- A condition on the type of a call's target. A custom condition is known by its key. -/
inductive ClassFilter where
  | all
  | exact (name : String)
  | assignable (name : String)
  | pattern (pattern : NamePattern)
  | custom (key : String) (accepts : TypeInfo → Bool)
  | union (filters : List ClassFilter)
  | inter (filters : List ClassFilter)
  | not (filter : ClassFilter)

namespace ClassFilter

instance : Inhabited ClassFilter := ⟨all⟩

mutual

def accepts : ClassFilter → TypeInfo → Bool
  | all, _ => true
  | exact name, t => t.name == name
  | assignable name, t => t.isAssignableTo name
  | pattern p, t => p.acceptsType t
  | custom _ predicate, t => predicate t
  | union filters, t => someAccepts filters t
  | inter filters, t => everyAccepts filters t
  | not filter, t => !filter.accepts t

def someAccepts : List ClassFilter → TypeInfo → Bool
  | [], _ => false
  | f :: fs, t => f.accepts t || someAccepts fs t

def everyAccepts : List ClassFilter → TypeInfo → Bool
  | [], _ => true
  | f :: fs, t => f.accepts t && everyAccepts fs t

end

mutual

/-- Equality of conditions: operands may stand in any order, custom conditions are
equal when their keys are. -/
def same : ClassFilter → ClassFilter → Bool
  | all, all => true
  | exact a, exact b => a == b
  | assignable a, assignable b => a == b
  | pattern a, pattern b => a == b
  | custom a _, custom b _ => a == b
  | union fs, union gs => sameOperands fs gs
  | inter fs, inter gs => sameOperands fs gs
  | not f, not g => f.same g
  | _, _ => false

/-- Whether the operands can be paired off one to one. -/
def sameOperands : List ClassFilter → List ClassFilter → Bool
  | [], gs => gs.isEmpty
  | f :: fs, gs => gs.any f.same && sameOperands fs (gs.eraseP f.same)

end

instance : BEq ClassFilter := ⟨same⟩

/-- A digest of operands by their number and the sum of their digests. -/
def unorderedDigest (count : Nat) (sum : UInt64) : UInt64 := mixHash (hash count) sum

mutual

/-- A digest that does not depend on the order of operands. -/
def digest : ClassFilter → UInt64
  | all => 1
  | exact name => mixHash 2 (hash name)
  | assignable name => mixHash 3 (hash name)
  | pattern p => mixHash 4 (hash p)
  | custom key _ => mixHash 5 (hash key)
  | union filters => mixHash 6 (unorderedDigest filters.length (digestSum filters))
  | inter filters => mixHash 7 (unorderedDigest filters.length (digestSum filters))
  | not filter => mixHash 8 filter.digest

def digestSum : List ClassFilter → UInt64
  | [] => 0
  | f :: fs => f.digest + digestSum fs

end

instance : Hashable ClassFilter := ⟨digest⟩

mutual

def render : ClassFilter → String
  | all => "ClassFilter.TRUE"
  | exact name => "Exact(" ++ name ++ ")"
  | assignable name => "Assignable(" ++ name ++ ")"
  | pattern p => "Pattern(" ++ p.render ++ ")"
  | custom key _ => "Custom(" ++ key ++ ")"
  | union filters => "Union" ++ Text.listing (renderAll filters)
  | inter filters => "Intersection" ++ Text.listing (renderAll filters)
  | not filter => "Negate(" ++ filter.render ++ ")"

def renderAll : List ClassFilter → List String
  | [] => []
  | f :: fs => f.render :: renderAll fs

end

end ClassFilter

end Weaving
