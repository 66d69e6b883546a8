import Weaving.Proofs.BindingOrder

namespace Weaving

section Segments

variable {path key : String} {p q : List String}

theorem segments_append (path r : String) : segments (path ++ "." ++ r) = segments path ++ segments r := by
  have htext : (path ++ "." ++ r).toList = path.toList ++ '.' :: r.toList := by simp
  rw [segments, htext, Text.pieces_append, List.map_append]
  rfl

theorem segments_of_not_mem (h : '.' ∉ key.toList) : segments key = [key] := by
  rw [segments, Text.pieces_of_not_mem h, List.map_singleton, String.ofList_toList]

theorem segments_intercalate (hp : p ≠ []) (h : ∀ key ∈ p, '.' ∉ key.toList) :
    segments (".".intercalate p) = p := by
  have htexts : (String.ofList ∘ String.toList) = id := funext fun _ => String.ofList_toList
  have hsplit : Text.pieces '.' (['.'].intercalate (p.map String.toList)) = p.map String.toList :=
    Text.pieces_intercalate (by simpa using hp) (by simpa using h)
  rw [segments, String.toList_intercalate]
  exact (congrArg (List.map String.ofList) hsplit).trans (by rw [List.map_map, htexts, List.map_id])

theorem intercalate_segments (key : String) : ".".intercalate (segments key) = key := by
  have htexts : (String.toList ∘ String.ofList) = id := funext fun _ => String.toList_ofList
  rw [← String.toList_inj, String.toList_intercalate, segments, List.map_map, htexts, List.map_id]
  exact Text.intercalate_pieces '.' key.toList

/-- A key whose path leads on from another path has its text and a point in front. -/
theorem exists_eq_append_of_segments (h : segments key = segments path ++ q) (hq : q ≠ []) :
    ∃ r, key = path ++ "." ++ r :=
  ⟨".".intercalate q, by
    rw [← intercalate_segments key, h, String.intercalate_append_of_ne_nil (segments_ne_nil path) hq,
      intercalate_segments]⟩

/-- Apart from the path itself, what is under a path in its text is so in its segments. -/
theorem relativePath?_eq_dropPrefix? (h : segments key ≠ segments path) :
    Environment.relativePath? path key = (segments key).dropPrefix? (segments path) := by
  cases hkey : Environment.relativePath? path key with
  | some p =>
      obtain ⟨r, rfl, rfl⟩ := Environment.exists_eq_append_of_relativePath? hkey
      rw [eq_comm, List.dropPrefix?_eq_some_iff]
      exact ⟨segments path, segments_append path r, beq_self_eq_true _⟩
  | none =>
      rw [Environment.relativePath?_eq_none_iff] at hkey
      rw [eq_comm, Option.eq_none_iff_forall_ne_some]
      intro q hq
      obtain ⟨p, hp, hpath⟩ := List.dropPrefix?_eq_some_iff.1 hq
      obtain rfl := eq_of_beq hpath
      obtain ⟨r, hr⟩ := exists_eq_append_of_segments hp fun hnil => h (by rw [hp, hnil, List.append_nil])
      exact hkey r hr

end Segments

namespace Datum

/-- The tables in a value that no array holds are sorted, each key once. -/
inductive Ordered : Datum → Prop
  | leaf {d : Datum} (h : d.isTable = false) : d.Ordered
  | table {entries : Table Datum} (h : entries.Pairwise (·.1 < ·.1)) (hinner : ∀ e ∈ entries, e.2.Ordered) :
      (table entries).Ordered

def isEmptyTable : Datum → Bool
  | .table [] => true
  | _ => false

mutual

/-- No table within the value is empty, and no key in it is empty or holds a point. What an array holds does
not count. -/
def isPlain : Datum → Bool
  | .table entries => plainEntries entries
  | _ => true

def plainEntries : List (String × Datum) → Bool
  | [] => true
  | (key, d) :: rest =>
    key != "" && !key.toList.contains '.' && !d.isEmptyTable && d.isPlain && plainEntries rest

end

/-- The paths that lead on through a key. -/
def through (key : String) (leaves : List (List String × Datum)) : List (List String × Datum) :=
  leaves.map fun l => (key :: l.1, l.2)

mutual

/-- The values in a datum that are no tables, under the paths that lead to them. -/
def leafPaths : Datum → List (List String × Datum)
  | .table entries => entryPaths entries
  | d => [([], d)]

def entryPaths : List (String × Datum) → List (List String × Datum)
  | [] => []
  | (key, d) :: rest => through key d.leafPaths ++ entryPaths rest

end

/-- A value that is no table stands at the end of a path. -/
def LeafAt (d : Datum) (path : List String) (x : Datum) : Prop := follow? path d = some x ∧ x.isTable = false

/-- What is behind the end of a path, under the paths that lead on from there. -/
def beyond (path : List String) (leaves : List (List String × Datum)) : List (List String × Datum) :=
  leaves.filterMap fun l => (l.1.dropPrefix? path).map (·, l.2)

variable {d d' x : Datum} {t : Table Datum} {key : String} {p q : List String}

theorem plainEntries_iff {l : List (String × Datum)} : plainEntries l = true ↔
    ∀ e ∈ l, e.1 ≠ "" ∧ '.' ∉ e.1.toList ∧ e.2.isEmptyTable = false ∧ e.2.isPlain = true := by
  induction l with
  | nil => simp [plainEntries]
  | cons e rest ih =>
      rw [plainEntries, List.forall_mem_cons]
      simp [ih, and_assoc]

theorem isPlain_table_iff : (table t).isPlain = true ↔
    ∀ e ∈ t, e.1 ≠ "" ∧ '.' ∉ e.1.toList ∧ e.2.isEmptyTable = false ∧ e.2.isPlain = true := by
  rw [isPlain, plainEntries_iff]

theorem leafPaths_of_leaf (h : d.isTable = false) : d.leafPaths = [([], d)] := by
  cases d <;> first | rfl | cases h

theorem entryPaths_eq_flatMap (l : List (String × Datum)) :
    entryPaths l = l.flatMap fun e => through e.1 e.2.leafPaths := by
  induction l with
  | nil => rfl
  | cons e rest ih => rw [entryPaths, ih, List.flatMap_cons]

theorem mem_through {l : List (List String × Datum)} :
    (p, x) ∈ through key l ↔ ∃ q, p = key :: q ∧ (q, x) ∈ l := by
  simp only [through, List.mem_map, Prod.mk.injEq, Prod.exists]
  constructor
  · rintro ⟨q, x, hq, rfl, rfl⟩
    exact ⟨q, rfl, hq⟩
  · rintro ⟨q, rfl, hq⟩
    exact ⟨q, x, hq, rfl, rfl⟩

theorem mem_entryPaths {l : List (String × Datum)} : (p, x) ∈ entryPaths l ↔
    ∃ e ∈ l, ∃ q, p = e.1 :: q ∧ (q, x) ∈ e.2.leafPaths := by
  simp only [entryPaths_eq_flatMap, List.mem_flatMap, mem_through]

theorem follow?_append (p q : List String) (d : Datum) : follow? (p ++ q) d = (follow? p d).bind (follow? q) := by
  induction p generalizing d with
  | nil => rfl
  | cons key p ih =>
      cases d with
      | table t =>
          rw [List.cons_append, Environment.follow?_cons, Environment.follow?_cons, Option.bind_assoc]
          exact Option.bind_congr fun d _ => ih d
      | _ => rfl

theorem follow?_of_leaf (h : d.isTable = false) (hp : p ≠ []) : follow? p d = none := by
  obtain ⟨key, p, rfl⟩ := List.exists_cons_of_ne_nil hp
  cases d <;> first | rfl | cases h

/-- The keys on the way through a plain value are without a point. -/
theorem not_mem_of_follow? (h : d.isPlain = true) (hd : follow? p d = some d') : ∀ key ∈ p, '.' ∉ key.toList := by
  induction p generalizing d with
  | nil => simp
  | cons key p ih =>
      cases d with
      | table t =>
          obtain ⟨inner, hinner, hd⟩ := Option.bind_eq_some_iff.1 hd
          obtain ⟨-, hkey, -, hplain⟩ := isPlain_table_iff.1 h _ (mem_of_lookup hinner)
          exact List.forall_mem_cons.2 ⟨hkey, ih hplain hd⟩
      | _ => cases hd

/-- What the entries of a table have from the table, all that a path through it leads to has. -/
theorem follow?_inherits {P : Datum → Prop} (hP : ∀ t, P (.table t) → ∀ e ∈ t, P e.2) (h : P d)
    (hd : follow? p d = some d') : P d' := by
  induction p generalizing d with
  | nil => exact Option.some.inj hd ▸ h
  | cons key p ih =>
      cases d with
      | table t =>
          obtain ⟨inner, hinner, hd⟩ := Option.bind_eq_some_iff.1 hd
          exact ih (hP t h _ (mem_of_lookup hinner)) hd
      | _ => cases hd

theorem Ordered.of_follow? (h : d.Ordered) (hd : follow? p d = some d') : d'.Ordered := by
  refine follow?_inherits (fun t ht => ?_) h hd
  cases ht with
  | leaf h => cases h
  | table _ hinner => exact hinner

theorem isPlain_of_follow? (h : d.isPlain = true) (hd : follow? p d = some d') : d'.isPlain = true :=
  follow?_inherits (P := (isPlain · = true)) (fun _ ht e he => (isPlain_table_iff.1 ht e he).2.2.2) h hd

theorem LeafAt.follow?_ne (h : d.LeafAt p x) (t : Table Datum) : follow? p d ≠ some (.table t) := by
  obtain ⟨hx, hleaf⟩ := h
  rw [hx]
  rintro ⟨rfl⟩
  cases hleaf

theorem Ordered.mem_leafPaths (h : d.Ordered) : (p, x) ∈ d.leafPaths ↔ d.LeafAt p x := by
  induction h generalizing p with
  | @leaf d h =>
      rw [leafPaths_of_leaf h, List.mem_singleton, LeafAt]
      cases p with
      | nil =>
          rw [follow?, Prod.mk.injEq, Option.some.injEq]
          constructor
          · rintro ⟨-, rfl⟩
            exact ⟨rfl, h⟩
          · rintro ⟨rfl, -⟩
            exact ⟨rfl, rfl⟩
      | cons key p => simp [follow?_of_leaf h]
  | @table t hsorted _ ih =>
      rw [leafPaths, mem_entryPaths, LeafAt]
      cases p with
      | nil =>
          rw [follow?, Option.some.injEq]
          refine iff_of_false ?_ ?_
          · rintro ⟨_, _, _, hnil, _⟩
            cases hnil
          · rintro ⟨rfl, hx⟩
            cases hx
      | cons key p =>
          rw [Environment.follow?_cons, Option.bind_eq_some_iff]
          constructor
          · rintro ⟨e, he, q, heq, hq⟩
            cases heq
            obtain ⟨hd, hx⟩ := (ih e he).1 hq
            exact ⟨⟨e.2, (lookup_eq_some_iff_mem (Table.nodup_keys hsorted)).2 he, hd⟩, hx⟩
          · rintro ⟨⟨d, hlookup, hd⟩, hx⟩
            have he := mem_of_lookup hlookup
            exact ⟨(key, d), he, p, rfl, (ih _ he).2 ⟨hd, hx⟩⟩

theorem map_fst_through (key : String) (l : List (List String × Datum)) :
    (through key l).map Prod.fst = (l.map Prod.fst).map (key :: ·) := by
  simp [through, Function.comp_def]

theorem Ordered.nodup_leafPaths (h : d.Ordered) : (d.leafPaths.map Prod.fst).Nodup := by
  induction h with
  | leaf h =>
      rw [leafPaths_of_leaf h]
      exact List.nodup_singleton _
  | @table t hsorted _ ih =>
      rw [leafPaths, entryPaths_eq_flatMap, List.map_flatMap, List.nodup_flatMap]
      refine ⟨fun e he => ?_, hsorted.imp fun {e e'} hlt p hp hp' => ?_⟩
      · rw [map_fst_through]
        exact (ih e he).map (List.cons_injective (a := e.1))
      · obtain ⟨l, hl, rfl⟩ := List.mem_map.1 hp
        obtain ⟨l', hl', heq⟩ := List.mem_map.1 hp'
        obtain ⟨q, hq, -⟩ := mem_through.1 hl
        obtain ⟨q', hq', -⟩ := mem_through.1 hl'
        rw [hq, hq'] at heq
        exact hlt.ne (List.cons_eq_cons.1 heq).1.symm

theorem beyond_nil (l : List (List String × Datum)) : beyond [] l = l := by
  simp [beyond]

theorem beyond_append (p : List String) (l l' : List (List String × Datum)) :
    beyond p (l ++ l') = beyond p l ++ beyond p l' := List.filterMap_append

theorem beyond_through_self (key : String) (p : List String) (l : List (List String × Datum)) :
    beyond (key :: p) (through key l) = beyond p l := by
  simp [beyond, through, List.filterMap_map, List.dropPrefix?]

theorem beyond_through_of_ne {k : String} (h : k ≠ key) (p : List String) (l : List (List String × Datum)) :
    beyond (key :: p) (through k l) = [] := by
  simp [beyond, through, List.filterMap_map, List.dropPrefix?, h]

theorem beyond_entryPaths_of_not_mem {l : List (String × Datum)} (h : key ∉ l.map Prod.fst) (p : List String) :
    beyond (key :: p) (entryPaths l) = [] := by
  induction l with
  | nil => rfl
  | cons e rest ih =>
      obtain ⟨hne, hrest⟩ := List.mem_cons.not.1 h |> not_or.1
      rw [entryPaths, beyond_append, beyond_through_of_ne (Ne.symm hne), List.nil_append, ih hrest]

/-- Only one entry of a table has paths through its key. -/
theorem beyond_entryPaths {l : List (String × Datum)} (h : (l.map Prod.fst).Nodup) (he : (key, d) ∈ l)
    (p : List String) : beyond (key :: p) (entryPaths l) = beyond p d.leafPaths := by
  induction l with
  | nil => cases he
  | cons e rest ih =>
      obtain ⟨hfirst, hrest⟩ := List.nodup_cons.1 h
      rw [entryPaths, beyond_append]
      rcases List.mem_cons.1 he with rfl | he
      · rw [beyond_through_self, beyond_entryPaths_of_not_mem hfirst, List.append_nil]
      · have hne : e.1 ≠ key := fun heq => hfirst (heq ▸ List.mem_map_of_mem he)
        rw [beyond_through_of_ne hne, List.nil_append, ih hrest he]

/-- Behind the end of a path are the leaves of the value that it leads to. -/
theorem Ordered.beyond_leafPaths (h : d.Ordered) (hd : follow? p d = some d') :
    beyond p d.leafPaths = d'.leafPaths := by
  induction p generalizing d with
  | nil =>
      obtain rfl := Option.some.inj hd
      exact beyond_nil _
  | cons key p ih =>
      cases h with
      | leaf h =>
          rw [follow?_of_leaf h (List.cons_ne_nil key p)] at hd
          cases hd
      | table hsorted hinner =>
          obtain ⟨inner, hlookup, hd⟩ := Option.bind_eq_some_iff.1 hd
          have he := mem_of_lookup hlookup
          rw [leafPaths, beyond_entryPaths (Table.nodup_keys hsorted) he, ih (hinner _ he) hd]

theorem Ordered.leafPaths_ne_nil (h : d.Ordered) (hplain : d.isPlain = true) (hfull : d.isEmptyTable = false) :
    d.leafPaths ≠ [] := by
  induction h with
  | leaf h =>
      rw [leafPaths_of_leaf h]
      exact List.cons_ne_nil _ _
  | @table t _ _ ih =>
      cases t with
      | nil => cases hfull
      | cons e rest =>
          obtain ⟨-, -, hinner, hplain⟩ := isPlain_table_iff.1 hplain e List.mem_cons_self
          have hfirst : through e.1 e.2.leafPaths ≠ [] :=
            List.map_eq_nil_iff.not.2 (ih e List.mem_cons_self hplain hinner)
          rw [leafPaths, entryPaths]
          exact List.append_ne_nil_of_left_ne_nil hfirst _

end Datum

namespace Source

open Datum

/-- Values by the segments of their keys. -/
def traced (l : List (String × Datum)) : List (List String × Datum) := l.map fun e => (segments e.1, e.2)

/-- Values behind the end of a path. -/
def below (path : List String) (l : List (List String × Datum)) : List (List String × Datum) :=
  l.map fun e => (path ++ e.1, e.2)

/-- The empty key is the one of the root. -/
def trail (path : String) : List String := if path = "" then [] else segments path

variable {path key : String} {d : Datum}

theorem trail_inner (hkey : key ≠ "") (hdot : '.' ∉ key.toList) (path : String) :
    (if path = "" then key else path ++ "." ++ key) ≠ "" ∧
      segments (if path = "" then key else path ++ "." ++ key) = trail path ++ [key] := by
  rw [trail]
  split
  · exact ⟨hkey, segments_of_not_mem hdot⟩
  · exact ⟨by simp, by rw [segments_append, segments_of_not_mem hdot]⟩

theorem traced_cons (e : String × Datum) (l : List (String × Datum)) :
    traced (e :: l) = (segments e.1, e.2) :: traced l := rfl

theorem traced_append (l l' : List (String × Datum)) : traced (l ++ l') = traced l ++ traced l' := List.map_append

theorem below_append (path : List String) (l l' : List (List String × Datum)) :
    below path (l ++ l') = below path l ++ below path l' := List.map_append

theorem below_through (path : List String) (key : String) (l : List (List String × Datum)) :
    below path (through key l) = below (path ++ [key]) l := by
  simp [below, through]

theorem traced_entryLeaves {l : List (String × Datum)} (path : String) (h : ∀ e ∈ l, e.1 ≠ "" ∧ '.' ∉ e.1.toList ∧
    ∀ path ≠ "", traced (leaves path e.2) = below (segments path) e.2.leafPaths) :
    traced (entryLeaves path l) = below (trail path) (entryPaths l) := by
  induction l with
  | nil => rfl
  | cons e rest ih =>
      obtain ⟨⟨hkey, hdot, hinner⟩, hrest⟩ := List.forall_mem_cons.1 h
      obtain ⟨hne, hsegments⟩ := trail_inner hkey hdot path
      rw [entryLeaves, traced_append, hinner _ hne, hsegments, ih hrest, entryPaths, below_append,
        below_through]

theorem leaves_of_leaf (h : d.isTable = false) : leaves path d = [(path, d)] := by
  cases d <;> first | rfl | cases h

theorem traced_leaves (hd : d.Ordered) (hplain : d.isPlain = true) (hpath : path ≠ "") :
    traced (leaves path d) = below (segments path) d.leafPaths := by
  induction hd generalizing path with
  | @leaf d h =>
      rw [leafPaths_of_leaf h, leaves_of_leaf h]
      simp [traced, below]
  | table _ _ ih =>
      rw [isPlain_table_iff] at hplain
      rw [leaves, leafPaths, traced_entryLeaves path fun e he => ?_, trail, if_neg hpath]
      obtain ⟨hkey, hdot, -, hinner⟩ := hplain e he
      exact ⟨hkey, hdot, fun path hpath => ih e he hinner hpath⟩

/-- The values of a document are kept under the paths that lead to them. -/
theorem traced_root {root : Table Datum} (hd : (Datum.table root).Ordered)
    (hplain : (Datum.table root).isPlain = true) : traced (entryLeaves "" root) = entryPaths root := by
  cases hd with
  | leaf h => cases h
  | table _ hinner =>
      rw [isPlain_table_iff] at hplain
      rw [traced_entryLeaves "" fun e he => ?_, trail, if_pos rfl]
      · simp [below]
      · obtain ⟨hkey, hdot, -, hplain⟩ := hplain e he
        exact ⟨hkey, hdot, fun path hpath => traced_leaves (hinner e he) hplain hpath⟩

end Source

end Weaving
