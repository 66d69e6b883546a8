import Weaving.Proofs.NameLists
import Weaving.Proofs.TableLookup
import Weaving.Proofs.TextSplitting
import Weaving.Settings.Environment

namespace Weaving

def segments (key : String) : List String := (Text.pieces '.' key.toList).map String.ofList

theorem segments_ne_nil (key : String) : segments key ≠ [] :=
  List.map_eq_nil_iff.not.2 (Text.pieces_ne_nil '.' key.toList)

theorem segments_injective : Function.Injective segments := by
  intro key other h
  have hpieces := List.map_injective_iff.2 (fun _ _ => String.ofList_injective) h
  have hjoined := congrArg ([('.' : Char)].intercalate ·) hpieces
  simp only [Text.intercalate_pieces] at hjoined
  exact String.toList_inj.1 hjoined

namespace Datum

/-- What stands at the end of a path through tables. -/
def follow? : List String → Datum → Option Datum
  | [], d => some d
  | key :: path, .table entries => (Table.get? entries key).bind (follow? path)
  | _ :: _, _ => none

/-- The entries of a value, which has none if it is no table. -/
def entries : Datum → Table Datum
  | .table t => t
  | _ => []

end Datum

namespace Source

/-- A source lists all the keys that it has a value for, and no other. -/
def IsComplete (s : Source) : Prop := ∀ key, key ∈ s.keys ↔ (s.get? key).isSome = true

variable {s : Source} {name : String} {priority : Option Int} {text : String}

theorem isComplete_ofTable (name : String) (priority : Int) (t : Table Datum) :
    (ofTable name priority t).IsComplete := fun _ => Table.isSome_get?_iff.symm

theorem isComplete_ofEntries (name : String) (priority : Option Int) (entries : List (String × Datum)) :
    (ofEntries name priority entries).IsComplete := isComplete_ofTable _ _ _

theorem isComplete_of_ofDocument {parse : String → Except String (Table Datum)}
    (h : ofDocument parse name priority text = .ok s) : s.IsComplete := by
  rw [ofDocument] at h
  split at h
  · cases h
  · cases h
    exact isComplete_ofTable _ _ _

theorem mem_properties {e : String × Datum} : e ∈ s.properties ↔ e.1 ∈ s.keys ∧ s.get? e.1 = some e.2 := by
  obtain ⟨key, d⟩ := e
  simp only [properties, List.mem_filterMap, Option.map_eq_some_iff, Prod.mk.injEq]
  constructor
  · rintro ⟨_, hkey, _, hd, rfl, rfl⟩
    exact ⟨hkey, hd⟩
  · rintro ⟨hkey, hd⟩
    exact ⟨key, hkey, d, hd, rfl, rfl⟩

theorem IsComplete.mem_map_properties (h : s.IsComplete) {key : String} :
    key ∈ s.properties.map Prod.fst ↔ key ∈ s.keys := by
  rw [List.mem_map]
  constructor
  · rintro ⟨e, he, rfl⟩
    exact (mem_properties.1 he).1
  · intro hkey
    obtain ⟨d, hd⟩ := Option.isSome_iff_exists.1 ((h key).1 hkey)
    exact ⟨(key, d), mem_properties.2 ⟨hkey, hd⟩, rfl⟩

end Source

namespace Environment

open Datum

variable {d d' : Datum} {path other : List String} {key : String} {t : Table Datum}

theorem follow?_cons (key : String) (path : List String) (t : Table Datum) :
    follow? (key :: path) (.table t) = (t.get? key).bind (follow? path) := rfl

def tableAt (t : Table Datum) (key : String) : Table Datum :=
  match t.get? key with
  | some (.table inner) => inner
  | _ => []

theorem tableAt_insert_self (t : Table Datum) (key : String) (d : Datum) :
    tableAt (t.insert key d) key = d.entries := by
  rw [tableAt, Table.get?_insert_self]
  cases d <;> rfl

theorem tableAt_insert_of_ne {k : String} (h : k ≠ key) (t : Table Datum) (d : Datum) :
    tableAt (t.insert key d) k = tableAt t k := by
  rw [tableAt, Table.get?_insert_of_ne h, tableAt]

theorem follow?_tableAt (h : path ≠ []) (key : String) (t : Table Datum) :
    follow? path (.table (tableAt t key)) = (t.get? key).bind (follow? path) := by
  obtain ⟨next, path, rfl⟩ := List.exists_cons_of_ne_nil h
  rw [tableAt]
  cases t.get? key with
  | none => rfl
  | some d => cases d <;> rfl

/-- A value put at the end of a path that starts in a table. At the end of an empty path it stands
itself. -/
def placed (d : Datum) : List String → Table Datum → Datum
  | [], _ => d
  | key :: path, t => .table (insertPath d (key :: path) t)

theorem placed_of_ne_nil (h : path ≠ []) (d : Datum) (t : Table Datum) :
    placed d path t = .table (insertPath d path t) := by
  obtain ⟨key, path, rfl⟩ := List.exists_cons_of_ne_nil h
  rfl

theorem insertPath_cons (d : Datum) (key : String) (path : List String) (t : Table Datum) :
    insertPath d (key :: path) t = t.insert key (placed d path (tableAt t key)) := by
  cases path <;> rfl

theorem follow?_placed (path : List String) (d : Datum) (t : Table Datum) :
    follow? path (placed d path t) = some d := by
  induction path generalizing t with
  | nil => rfl
  | cons key path ih =>
      rw [placed, insertPath_cons, follow?_cons, Table.get?_insert_self]
      exact ih _

theorem follow?_insertPath_self (h : path ≠ []) (d : Datum) (t : Table Datum) :
    follow? path (.table (insertPath d path t)) = some d :=
  placed_of_ne_nil h d t ▸ follow?_placed path d t

/-- Neither of two paths leads on from the end of the other. -/
def Apart (path other : List String) : Prop := ¬ path <+: other ∧ ¬ other <+: path

theorem Apart.symm (h : Apart path other) : Apart other path := ⟨h.2, h.1⟩

theorem Apart.ne_nil (h : Apart path other) : path ≠ [] := by
  rintro rfl
  exact h.1 List.nil_prefix

theorem Apart.of_cons (h : Apart (key :: path) (key :: other)) : Apart path other := by
  simpa [Apart, List.cons_prefix_cons] using h

theorem follow?_insertPath_of_apart (h : Apart path other) (d : Datum) (t : Table Datum) :
    follow? other (.table (insertPath d path t)) = follow? other (.table t) := by
  induction path generalizing other t with
  | nil => exact absurd rfl h.ne_nil
  | cons key path ih =>
      obtain ⟨k, other, rfl⟩ := List.exists_cons_of_ne_nil h.symm.ne_nil
      rw [insertPath_cons, follow?_cons, follow?_cons]
      by_cases hk : k = key
      · subst hk
        rw [Table.get?_insert_self, Option.bind_some, placed_of_ne_nil h.of_cons.ne_nil, ih h.of_cons,
          follow?_tableAt h.of_cons.symm.ne_nil]
      · rw [Table.get?_insert_of_ne hk]

section Relative

variable {path key : String} {p : List String}

theorem relativePath?_append (path r : String) : relativePath? path (path ++ "." ++ r) = some (segments r) := by
  have htext : (path ++ "." ++ r).toList = (path.toList ++ ['.']) ++ r.toList := by simp
  rw [relativePath?, htext, if_pos (List.isPrefixOf_iff_prefix.2 (List.prefix_append _ _)), List.drop_left]
  rfl

theorem exists_eq_append_of_relativePath? (h : relativePath? path key = some p) :
    ∃ r, key = path ++ "." ++ r ∧ p = segments r := by
  have hp := h
  rw [relativePath?] at hp
  split at hp
  · next hbegins =>
      obtain ⟨rest, hrest⟩ := List.isPrefixOf_iff_prefix.1 hbegins
      have hkey : key = path ++ "." ++ String.ofList rest := by
        rw [← String.toList_inj, ← hrest]
        simp
      subst hkey
      exact ⟨_, rfl, Option.some.inj (h.symm.trans (relativePath?_append path _))⟩
  · cases hp

theorem relativePath?_eq_none_iff : relativePath? path key = none ↔ ∀ r, key ≠ path ++ "." ++ r := by
  constructor
  · rintro h r rfl
    cases h.symm.trans (relativePath?_append path r)
  · intro h
    cases hp : relativePath? path key with
    | none => rfl
    | some p =>
        obtain ⟨r, hkey, -⟩ := exists_eq_append_of_relativePath? hp
        exact absurd hkey (h r)

end Relative

def bindEntry (path : String) (t : Table Datum) (e : String × Datum) : Table Datum :=
  match relativePath? path e.1 with
  | some segments => insertPath e.2 segments t
  | none => t

theorem bindEntries_eq_foldl (path : String) (order : List (String × Datum)) (t : Table Datum) :
    bindEntries path order t = order.foldl (bindEntry path) t := rfl

theorem bindEntries_cons (path : String) (e : String × Datum) (rest : List (String × Datum)) (t : Table Datum) :
    bindEntries path (e :: rest) t = bindEntries path rest (bindEntry path t e) := rfl

theorem bindEntry_append (path r : String) (d : Datum) (t : Table Datum) :
    bindEntry path t (path ++ "." ++ r, d) = insertPath d (segments r) t := by
  rw [bindEntry, relativePath?_append]

theorem bindEntry_of_ne {path : String} {e : String × Datum} (h : ∀ r, e.1 ≠ path ++ "." ++ r) (t : Table Datum) :
    bindEntry path t e = t := by
  rw [bindEntry, relativePath?_eq_none_iff.2 h]

/-- A key that no other one interferes with has its value in the table if it is among the entries. -/
theorem follow?_bindEntries {path r : String} {get? : String → Option Datum} {entries : List (String × Datum)}
    (hget : ∀ e ∈ entries, get? e.1 = some e.2)
    (halone : ∀ r', path ++ "." ++ r' ∈ entries.map Prod.fst → r' ≠ r → Apart (segments r') (segments r))
    (t : Table Datum) :
    follow? (segments r) (.table (bindEntries path entries t)) =
      if path ++ "." ++ r ∈ entries.map Prod.fst then get? (path ++ "." ++ r)
      else follow? (segments r) (.table t) := by
  induction entries generalizing t with
  | nil => rfl
  | cons e rest ih =>
      obtain ⟨key, d⟩ := e
      obtain ⟨hd, hget⟩ := List.forall_mem_cons.1 hget
      rw [bindEntries_cons, ih hget fun r' hr' => halone r' (List.mem_cons_of_mem _ hr'), List.map_cons]
      by_cases hunder : ∃ r', key = path ++ "." ++ r'
      · obtain ⟨r', rfl⟩ := hunder
        rw [bindEntry_append]
        by_cases hr : r' = r
        · subst hr
          rw [follow?_insertPath_self (segments_ne_nil r'), if_pos List.mem_cons_self]
          split
          · rfl
          · exact hd.symm
        · have hne : path ++ "." ++ r ≠ path ++ "." ++ r' := fun heq => hr ((String.append_right_inj _).1 heq).symm
          rw [follow?_insertPath_of_apart (halone r' List.mem_cons_self hr)]
          simp only [List.mem_cons, hne, false_or]
      · rw [not_exists] at hunder
        rw [bindEntry_of_ne hunder]
        simp only [List.mem_cons, Ne.symm (hunder r), false_or]

/-- What is bound if the entries of the sources are met in the given orders. -/
def bindAll (path : String) (orders : List (List (String × Datum))) : Table Datum :=
  orders.foldr (bindEntries path) []

/-- Orders in which the entries of the sources can be met. -/
def Enumerates (orders : List (List (String × Datum))) (sources : List Source) : Prop :=
  List.Forall₂ (fun order s => order.Perm s.properties) orders sources

theorem bind_eq_bindAll (e : Environment) (path : String) :
    e.bind path = bindAll path (e.sources.map (·.properties)) := by
  rw [bindAll, List.foldr_map]
  rfl

theorem enumerates_properties (sources : List Source) : Enumerates (sources.map (·.properties)) sources := by
  rw [Enumerates, List.forall₂_map_left_iff]
  exact List.forall₂_same.2 fun s _ => List.Perm.refl _

/-- No other key of a source leads on from the end of a key, or the other way round. -/
def StandsAlone (sources : List Source) (path r : String) : Prop :=
  ∀ s ∈ sources, ∀ r', path ++ "." ++ r' ∈ s.keys → r' ≠ r → Apart (segments r') (segments r)

theorem standsAlone_iff {sources : List Source} {path r : String} :
    StandsAlone sources path r ↔ ∀ s ∈ sources, ∀ key ∈ s.keys, ∀ p ∈ relativePath? path key,
      p = segments r ∨ Apart p (segments r) := by
  constructor
  · intro h s hs key hkey p hp
    obtain ⟨r', rfl, rfl⟩ := exists_eq_append_of_relativePath? hp
    by_cases hr : r' = r
    · exact .inl (congrArg segments hr)
    · exact .inr (h s hs r' hkey hr)
  · intro h s hs r' hkey hr
    exact (h s hs _ hkey _ (relativePath?_append path r')).resolve_left (segments_injective.ne hr)

instance (path other : List String) : Decidable (Apart path other) := inferInstanceAs (Decidable (_ ∧ _))

instance (sources : List Source) (path r : String) : Decidable (StandsAlone sources path r) :=
  decidable_of_iff _ standsAlone_iff.symm

theorem follow?_bindAll {sources : List Source} {orders : List (List (String × Datum))} {path r : String}
    (hcomplete : ∀ s ∈ sources, s.IsComplete) (halone : StandsAlone sources path r)
    (horders : Enumerates orders sources) :
    follow? (segments r) (.table (bindAll path orders)) =
      sources.findSome? (·.get? (path ++ "." ++ r)) := by
  induction horders with
  | nil =>
      obtain ⟨k, rest, hsegments⟩ := List.exists_cons_of_ne_nil (segments_ne_nil r)
      rw [hsegments]
      rfl
  | @cons order s orders sources hperm _ ih =>
      obtain ⟨hs, hcomplete⟩ := List.forall_mem_cons.1 hcomplete
      have hkeys {key : String} : key ∈ order.map Prod.fst ↔ key ∈ s.keys :=
        (hperm.map Prod.fst).mem_iff.trans hs.mem_map_properties
      have hrest := ih hcomplete fun s' hs' => halone s' (List.mem_cons_of_mem _ hs')
      have hget : ∀ e ∈ order, s.get? e.1 = some e.2 := fun e he =>
        (Source.mem_properties.1 (hperm.subset he)).2
      rw [bindAll, List.foldr_cons, ← bindAll, follow?_bindEntries hget
        (fun r' hr' => halone s List.mem_cons_self r' (hkeys.1 hr')), hrest, List.findSome?_cons]
      simp only [hkeys, hs (path ++ "." ++ r)]
      cases s.get? (path ++ "." ++ r) <;> rfl

section Filter

variable {path : String} (keep : String → Bool) (hkeep : ∀ r, keep (path ++ "." ++ r) = true)

include hkeep

theorem bindEntries_filter (order : List (String × Datum)) (t : Table Datum) :
    bindEntries path (order.filter (keep ·.1)) t = bindEntries path order t := by
  induction order generalizing t with
  | nil => rfl
  | cons e rest ih =>
      rw [List.filter_cons]
      split
      · exact ih (bindEntry path t e)
      · next hdrop =>
          rw [bindEntries_cons, bindEntry_of_ne fun r hr => hdrop (by rw [hr]; exact hkeep r)]
          exact ih t

theorem bindAll_filter (orders : List (List (String × Datum))) :
    bindAll path (orders.map fun order => order.filter (keep ·.1)) = bindAll path orders := by
  induction orders with
  | nil => rfl
  | cons order orders ih =>
      rw [List.map_cons, bindAll, List.foldr_cons, ← bindAll, ih, bindEntries_filter keep hkeep]
      rfl

end Filter

theorem mem_insertSource {s s' : Source} {sources : List Source} :
    s' ∈ insertSource s sources ↔ s' = s ∨ s' ∈ sources := by
  induction sources with
  | nil => simp [insertSource]
  | cons t rest ih =>
      rw [insertSource]
      split
      · rw [List.mem_cons]
      · rw [List.mem_cons, List.mem_cons, ih]
        exact or_left_comm

theorem mem_sources_foldl_add {s : Source} (sources : List Source) (e : Environment) :
    s ∈ (sources.foldl add e).sources ↔ s ∈ sources ∨ s ∈ e.sources := by
  induction sources generalizing e with
  | nil => simp
  | cons t rest ih =>
      rw [List.foldl_cons, ih, add, mem_insertSource, List.mem_cons]
      exact or_left_comm.trans or_assoc.symm

theorem mem_sources_added {s : Source} {sources : List Source} :
    s ∈ (sources.foldl add empty).sources ↔ s ∈ sources := by
  simp [mem_sources_foldl_add, empty]

/-- Whatever complete sources are added with whatever priorities, and in whatever order the entries of each of
them are met: a key under a path is found in the table of the path exactly as it is found alone, if no other key
under the path leads on from its end or ends on its way. Keys that are not under the path do not count. -/
theorem bind_agrees_with_get? {sources : List Source} (hcomplete : ∀ s ∈ sources, s.IsComplete) (path : String) :
    let e := sources.foldl add empty
    (∃ orders, Enumerates orders e.sources ∧ e.bind path = bindAll path orders) ∧
    ∀ orders, Enumerates orders e.sources →
      (∀ r, StandsAlone sources path r →
        follow? (segments r) (.table (bindAll path orders)) = e.get? (path ++ "." ++ r) ∧
        ∀ s ∈ sources, path ++ "." ++ r ∈ s.keys → (e.get? (path ++ "." ++ r)).isSome = true) ∧
      ∀ keep : String → Bool, (∀ r, keep (path ++ "." ++ r) = true) →
        bindAll path (orders.map fun order => order.filter (keep ·.1)) = bindAll path orders := by
  intro e
  have hsources : ∀ s ∈ e.sources, s ∈ sources := fun s hs => mem_sources_added.1 hs
  refine ⟨⟨_, enumerates_properties e.sources, bind_eq_bindAll e path⟩, fun orders horders =>
    ⟨fun r halone => ⟨?_, fun s hs hkey => ?_⟩, fun keep hkeep => bindAll_filter keep hkeep orders⟩⟩
  · exact follow?_bindAll (fun s hs => hcomplete s (hsources s hs)) (fun s hs => halone s (hsources s hs)) horders
  · exact List.findSome?_isSome_iff.2 ⟨s, mem_sources_added.2 hs, (hcomplete s hs _).1 hkey⟩

/-- Settings that others override. -/
def layered : List Source :=
  [Source.ofEntries "defaults" (some 10) [("logging.level", .text "info"), ("logging.format", .text "json")],
    Source.ofEntries "overrides" none [("logging.level", .text "debug"), ("loggingfile", .text "app.log")]]

theorem level_overridden :
    (∀ s ∈ layered, s.IsComplete) ∧ StandsAlone layered "logging" "level" ∧
      let e := layered.foldl add empty
      ∀ orders, Enumerates orders e.sources →
        follow? (segments "level") (.table (bindAll "logging" orders)) = some (.text "debug") := by
  have hcomplete : ∀ s ∈ layered, s.IsComplete := by
    simp only [layered, List.forall_mem_cons]
    exact ⟨Source.isComplete_ofEntries _ _ _, Source.isComplete_ofEntries _ _ _, by simp⟩
  have halone : StandsAlone layered "logging" "level" := by decide
  refine ⟨hcomplete, halone, fun orders horders => ?_⟩
  obtain ⟨hfollow, -⟩ := ((bind_agrees_with_get? hcomplete "logging").2 orders horders).1 "level" halone
  exact hfollow

end Environment

end Weaving
