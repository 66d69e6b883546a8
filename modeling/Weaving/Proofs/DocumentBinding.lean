import Mathlib.Data.List.Permutation
import Weaving.Proofs.DocumentOrder

namespace Weaving

namespace Source

open Datum

variable {d : Datum} {root : Table Datum}

/-- The entries are the leaves of a value, each under its dotted path. -/
def Flattens (l : List (String × Datum)) (d : Datum) : Prop := ∀ key x, (key, x) ∈ l ↔ d.LeafAt (segments key) x

theorem mem_traced {l : List (String × Datum)} {key : String} : (segments key, d) ∈ traced l ↔ (key, d) ∈ l := by
  have hinj : Function.Injective fun e : String × Datum => (segments e.1, e.2) :=
    segments_injective.prodMap Function.injective_id
  exact List.mem_map_of_injective hinj (a := (key, d))

theorem flattens_entryLeaves (hd : (Datum.table root).Ordered) (hplain : (Datum.table root).isPlain = true) :
    Flattens (entryLeaves "" root) (.table root) := by
  intro key x
  rw [← mem_traced, traced_root hd hplain, ← hd.mem_leafPaths, leafPaths]

theorem nodup_entryLeaves (hd : (Datum.table root).Ordered) (hplain : (Datum.table root).isPlain = true) :
    ((entryLeaves "" root).map Prod.fst).Nodup := by
  have hpaths : ((traced (entryLeaves "" root)).map Prod.fst).Nodup := by
    rw [traced_root hd hplain]
    exact hd.nodup_leafPaths
  rw [traced, List.map_map] at hpaths
  refine List.Nodup.of_map segments ?_
  rw [List.map_map]
  exact hpaths

/-- No leaf path leads on from the end of another one, as no table stands there. -/
theorem Flattens.orderFree {s : Source} (hs : s.IsComplete) (h : Flattens s.properties d) (path : String) :
    s.OrderFree path := by
  have hflat : ∀ e ∈ s.properties, e.2.isTable = false := fun e he => ((h e.1 e.2).1 he).2
  refine (Environment.orderFree_iff_of_flat hs hflat).2 fun key hkey key' hkey' p hp p' hp' hbegins => ?_
  obtain ⟨r, rfl, rfl⟩ := Environment.exists_eq_append_of_relativePath? hp
  obtain ⟨r', rfl, rfl⟩ := Environment.exists_eq_append_of_relativePath? hp'
  obtain ⟨⟨_, x⟩, he, rfl⟩ := List.mem_map.1 (hs.mem_map_properties.2 hkey)
  obtain ⟨⟨_, x'⟩, he', rfl⟩ := List.mem_map.1 (hs.mem_map_properties.2 hkey')
  obtain ⟨q, hq⟩ := hbegins
  -- What is behind the end of the longer path is found by following its last part from the first leaf.
  obtain ⟨hx, hleaf⟩ := (h _ _).1 he
  obtain ⟨hx', -⟩ := (h _ _).1 he'
  rw [segments_append] at hx
  rw [segments_append, ← hq, ← List.append_assoc, follow?_append, hx, Option.bind_some] at hx'
  by_contra hne
  have hnonempty : q ≠ [] := by
    rintro rfl
    exact hne ((List.append_nil _).symm.trans hq)
  rw [follow?_of_leaf hleaf hnonempty] at hx'
  cases hx'

theorem properties_ofTable {t : Table Datum} (h : t.keys.Nodup) (name : String) (priority : Int) :
    (ofTable name priority t).properties = t := by
  have hfilter : t.filterMap (fun e => (t.get? e.1).map (e.1, ·)) = t.filterMap some := by
    refine List.filterMap_congr fun e he => ?_
    rw [Table.get?, (lookup_eq_some_iff_mem h).2 he, Option.map_some]
  rw [properties, ofTable, Table.keys, List.filterMap_map]
  exact hfilter.trans List.filterMap_some

theorem exists_ofDocument {parse : String → Except String (Table Datum)} {text : String} (h : parse text = .ok root)
    (hd : (Datum.table root).Ordered) (hplain : (Datum.table root).isPlain = true) (name : String)
    (priority : Option Int) : ∃ s, ofDocument parse name priority text = .ok s ∧ s.IsComplete ∧ s.keys.Nodup ∧
      s.properties.Perm (entryLeaves "" root) := by
  have hkeys := Table.nodup_keys_ofList (entryLeaves "" root)
  refine ⟨ofTable name (priority.getD 0) (Table.ofList (entryLeaves "" root)), by rw [ofDocument, h],
    isComplete_ofTable _ _ _, hkeys, ?_⟩
  rw [properties_ofTable hkeys]
  exact Table.perm_ofList (nodup_entryLeaves hd hplain)

end Source

namespace Environment

open Datum

variable {d x : Datum} {t root : Table Datum} {key : String} {path : String}

/-- Puts values into a table, each at the end of its path. -/
def insertAll (l : List (List String × Datum)) (t : Table Datum) : Table Datum :=
  l.foldl (fun t e => insertPath e.2 e.1 t) t

theorem insertAll_cons (e : List String × Datum) (l : List (List String × Datum)) (t : Table Datum) :
    insertAll (e :: l) t = insertAll l (insertPath e.2 e.1 t) := rfl

theorem insertAll_append (l l' : List (List String × Datum)) (t : Table Datum) :
    insertAll (l ++ l') t = insertAll l' (insertAll l t) := List.foldl_append

theorem insertAll_through {l : List (List String × Datum)} (hl : l ≠ []) (hpaths : ∀ e ∈ l, e.1 ≠ [])
    (key : String) (t : Table Datum) :
    insertAll (through key l) t = t.insert key (.table (insertAll l (tableAt t key))) := by
  induction l generalizing t with
  | nil => exact absurd rfl hl
  | cons e rest ih =>
      obtain ⟨he, hrest⟩ := List.forall_mem_cons.1 hpaths
      rw [through, List.map_cons, ← through, insertAll_cons, insertAll_cons, insertPath_cons, placed_of_ne_nil he]
      cases rest with
      | nil => rfl
      | cons next rest => rw [ih (List.cons_ne_nil next rest) hrest, tableAt_insert_self, entries, Table.insert_insert]

theorem ne_nil_of_mem_entryPaths {l : List (String × Datum)} {e : List String × Datum} (h : e ∈ entryPaths l) :
    e.1 ≠ [] := by
  obtain ⟨_, _, q, hq, -⟩ := mem_entryPaths.1 h
  exact hq ▸ List.cons_ne_nil _ q

/-- If the entries of a value are made up of its leaves, so is the value behind a key. -/
theorem insertAll_leafPaths (hd : d.Ordered) (hplain : d.isPlain = true) (hfull : d.isEmptyTable = false)
    (hentries : insertAll (entryPaths d.entries) [] = d.entries) (hnone : tableAt t key = []) :
    insertAll (through key d.leafPaths) t = t.insert key d := by
  have hleaves := hd.leafPaths_ne_nil hplain hfull
  cases d with
  | table inner =>
      rw [insertAll_through hleaves fun e he => ne_nil_of_mem_entryPaths he, hnone]
      exact congrArg (t.insert key <| .table ·) hentries
  | _ => rfl

theorem insertAll_entryPaths {l : List (String × Datum)} (hkeys : (l.map Prod.fst).Nodup)
    (hentry : ∀ e ∈ l, ∀ t, tableAt t e.1 = [] → insertAll (through e.1 e.2.leafPaths) t = t.insert e.1 e.2)
    (hnone : ∀ e ∈ l, tableAt t e.1 = []) :
    insertAll (entryPaths l) t = l.foldl (fun t e => t.insert e.1 e.2) t := by
  induction l generalizing t with
  | nil => rfl
  | cons e rest ih =>
      obtain ⟨hfirst, hkeys⟩ := List.nodup_cons.1 hkeys
      obtain ⟨hentry, hentries⟩ := List.forall_mem_cons.1 hentry
      obtain ⟨he, hnone⟩ := List.forall_mem_cons.1 hnone
      -- As each key occurs once, the entry that is put in is no table that a later one goes into.
      have hrest : ∀ e' ∈ rest, tableAt (t.insert e.1 e.2) e'.1 = [] := by
        intro e' he'
        have hne : e'.1 ≠ e.1 := fun heq => hfirst (heq ▸ List.mem_map_of_mem he')
        rw [tableAt_insert_of_ne hne, hnone e' he']
      rw [entryPaths, insertAll_append, hentry t he, ih hkeys hentries hrest, List.foldl_cons]

/-- A table without an empty one in it is made up of its leaves. -/
theorem insertAll_leaves (hd : d.Ordered) (hplain : d.isPlain = true) :
    insertAll (entryPaths d.entries) [] = d.entries := by
  induction hd with
  | @leaf d h => cases d <;> first | rfl | cases h
  | @table t hsorted hd ih =>
      rw [isPlain_table_iff] at hplain
      rw [entries, insertAll_entryPaths (Table.nodup_keys hsorted) (fun e he t hnone => ?_) fun _ _ => rfl]
      · exact Table.ofList_eq_self hsorted
      · obtain ⟨-, -, hfull, hinner⟩ := hplain e he
        exact insertAll_leafPaths (hd e he) hinner hfull (ih e he hinner) hnone

theorem bindEntries_eq_insertAll {l : List (String × Datum)} (h : ∀ e ∈ l, segments e.1 ≠ segments path)
    (t : Table Datum) :
    bindEntries path l t = insertAll (beyond (segments path) (Source.traced l)) t := by
  induction l generalizing t with
  | nil => rfl
  | cons e rest ih =>
      obtain ⟨hne, hrest⟩ := List.forall_mem_cons.1 h
      rw [bindEntries_cons, ih hrest, bindEntry, relativePath?_eq_dropPrefix? hne, Source.traced_cons, beyond,
        beyond, List.filterMap_cons]
      cases (segments e.1).dropPrefix? (segments path) <;> rfl

/-- What is bound under a path that leads to a table is that table, in whatever order the leaves are met. -/
theorem bindEntries_leaves (hd : (Datum.table root).Ordered) (hplain : (Datum.table root).isPlain = true)
    {s : Source} (hcomplete : s.IsComplete) (hs : s.properties.Perm (Source.entryLeaves "" root)) {order : List (String × Datum)}
    (horder : order.Perm s.properties) (ht : follow? (segments path) (.table root) = some (.table t)) :
    bindEntries path order [] = t := by
  have hflat := Source.flattens_entryLeaves hd hplain
  have hs' : Source.Flattens s.properties (.table root) := fun key x => hs.mem_iff.trans (hflat key x)
  have hfree := hs'.orderFree hcomplete path
  have hapart : ∀ e ∈ Source.entryLeaves "" root, segments e.1 ≠ segments path := by
    intro e he heq
    exact ((hflat e.1 e.2).1 he).follow?_ne t (heq ▸ ht)
  calc bindEntries path order []
      = bindEntries path (Source.entryLeaves "" root) [] := by
        rw [bindEntries_perm hfree horder, bindEntries_perm hfree hs.symm]
    _ = insertAll (beyond (segments path) (entryPaths root)) [] := by
        rw [bindEntries_eq_insertAll hapart, Source.traced_root hd hplain]
    _ = insertAll (entryPaths t) [] := congrArg (insertAll · []) (hd.beyond_leafPaths ht)
    _ = t := insertAll_leaves (hd.of_follow? ht) (isPlain_of_follow? hplain ht)

theorem segments_intercalate_of_leaf (hplain : (Datum.table root).isPlain = true) {p : List String}
    (hx : (Datum.table root).LeafAt p x) : segments (".".intercalate p) = p := by
  refine segments_intercalate ?_ (not_mem_of_follow? hplain hx.1)
  rintro rfl
  exact hx.follow?_ne root rfl

/-- Documents may be read in any way that gives sorted tables, each key once. A document of keys without
points, none of them empty, and of tables that hold something gives a source with the leaves of the document
under their dotted paths. If that is the only source, what is bound under the path to a table is the table, in
whatever order the entries of the source are met. -/
theorem document_bound {parse : String → Except String (Table Datum)} {text : String} {root : Table Datum}
    (h : parse text = .ok root) (hd : (Datum.table root).Ordered) (hplain : (Datum.table root).isPlain = true)
    (name : String) (priority : Option Int) :
    ∃ s, Source.ofDocument parse name priority text = .ok s ∧ s.keys.Nodup ∧
      (∀ key, key ∈ s.keys ↔ ∃ p x, (Datum.table root).LeafAt p x ∧ key = ".".intercalate p) ∧
      (∀ p x, (Datum.table root).LeafAt p x → s.get? (".".intercalate p) = some x) ∧
      ∀ p ≠ [], ∀ t, follow? p (.table root) = some (.table t) →
        (empty.add s).bind (".".intercalate p) = t ∧
        ∀ orders, Enumerates orders (empty.add s).sources → bindAll (".".intercalate p) orders = t := by
  obtain ⟨s, hdocument, hcomplete, hkeys, hs⟩ := Source.exists_ofDocument h hd hplain name priority
  have hmem : ∀ p x, (Datum.table root).LeafAt p x → (".".intercalate p, x) ∈ s.properties := by
    intro p x hx
    refine hs.mem_iff.2 ((Source.flattens_entryLeaves hd hplain _ x).2 ?_)
    rwa [segments_intercalate_of_leaf hplain hx]
  refine ⟨s, hdocument, hkeys, fun key => ⟨fun hkey => ?_, ?_⟩, fun p x hx => ?_, fun p hp t ht => ?_⟩
  · obtain ⟨⟨_, x⟩, he, rfl⟩ := List.mem_map.1 (hcomplete.mem_map_properties.2 hkey)
    have hx := (Source.flattens_entryLeaves hd hplain _ x).1 (hs.mem_iff.1 he)
    exact ⟨_, x, hx, (intercalate_segments _).symm⟩
  · rintro ⟨p, x, hx, rfl⟩
    exact (Source.mem_properties.1 (hmem p x hx)).1
  · exact (Source.mem_properties.1 (hmem p x hx)).2
  · have horders : ∀ orders, Enumerates orders [s] → bindAll (".".intercalate p) orders = t := by
      rintro _ (_ | ⟨horder, _ | _⟩)
      refine bindEntries_leaves hd hplain hcomplete hs horder ?_
      rwa [segments_intercalate hp (not_mem_of_follow? hplain ht)]
    exact ⟨(bind_eq_bindAll _ _).trans (horders _ (enumerates_properties _)), horders⟩

/-- A document with a table in a table and an array. -/
def shopText : String := "'name' = 'shop'\n['server']\n'hosts' = ['a', 'b']\n['server'.'tls']\n'forced' = true"

theorem server_bound :
    let server := [("hosts", .array [.text "a", .text "b"]), ("tls", .table [("forced", .boolean true)])]
    let root := [("name", .text "shop"), ("server", .table server)]
    Toml.parse shopText = .ok root ∧ (Datum.table root).Ordered ∧ (Datum.table root).isPlain = true ∧
    (Datum.table root).LeafAt ["server", "tls", "forced"] (.boolean true) ∧
    follow? ["server"] (.table root) = some (.table server) ∧
    ∃ s, Source.ofDocument Toml.parse "shop.toml" none shopText = .ok s ∧
      s.get? "server.tls.forced" = some (.boolean true) ∧
      ∀ orders, Enumerates orders (empty.add s).sources → bindAll "server" orders = server := by
  intro server root
  have hparse : Toml.parse shopText = .ok root := by cbv
  have hd : (Datum.table root).Ordered := Toml.ordered_of_parse hparse
  have hplain : (Datum.table root).isPlain = true := by decide
  have hleaf : (Datum.table root).LeafAt ["server", "tls", "forced"] (.boolean true) := ⟨rfl, rfl⟩
  have hserver : follow? ["server"] (.table root) = some (.table server) := rfl
  obtain ⟨s, hs, -, -, hget, hbind⟩ := document_bound hparse hd hplain "shop.toml" none
  exact ⟨hparse, hd, hplain, hleaf, hserver, s, hs, hget _ _ hleaf,
    (hbind ["server"] (List.cons_ne_nil _ _) server hserver).2⟩

end Environment

end Weaving
