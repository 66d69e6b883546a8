import Weaving.Proofs.LeafPaths
import Weaving.Toml.Document

namespace Weaving

namespace Toml

/-- Every value in a document under construction is ordered. -/
inductive Node.Ordered : Node → Prop
  | value {d : Datum} (h : d.Ordered) : (Node.value d).Ordered
  | table {standing : Standing} {entries : Entries} (h : ∀ e ∈ entries, e.2.Ordered) :
      (Node.table standing entries).Ordered
  | tables (items : List Entries) : (Node.tables items).Ordered

theorem entryData_eq_map (entries : Entries) : entryData entries = entries.map fun e => (e.1, e.2.datum) := by
  induction entries with
  | nil => rw [entryData, List.map_nil]
  | cons e rest ih => rw [entryData, List.map_cons, ih]

/-- The table of some nodes sorts them itself, so only the values in them can be out of order. -/
theorem ordered_ofList {entries : Entries} (h : ∀ e ∈ entries, e.2.datum.Ordered) :
    (Datum.table (Table.ofList (entryData entries))).Ordered := by
  refine .table (Table.pairwise_ofList _) fun e he => ?_
  have hmem := Table.mem_ofList he
  rw [entryData_eq_map, List.mem_map] at hmem
  obtain ⟨e', he', rfl⟩ := hmem
  exact h e' he'

theorem Node.Ordered.datum {n : Node} (h : n.Ordered) : n.datum.Ordered := by
  induction h with
  | value h => rwa [Node.datum]
  | table _ ih =>
      rw [Node.datum]
      exact ordered_ofList ih
  | tables items =>
      rw [Node.datum]
      exact .leaf rfl

theorem Node.Ordered.inner {standing : Standing} {entries : Entries} (h : (Node.table standing entries).Ordered) :
    ∀ e ∈ entries, e.2.Ordered := by
  cases h with
  | table h => exact h

namespace Entries

variable {entries entries' : Entries} {key : String} {d : Datum} {path : List String}

/-- A change of an entry, or of a missing one, that brings in nothing out of order. -/
def Keeps (f : Option Node → Option Node) : Prop :=
  ∀ before after, (∀ n ∈ before, n.Ordered) → f before = some after → after.Ordered

theorem modify_ordered {f : Option Node → Option Node} (hf : Keeps f) (h : ∀ e ∈ entries, e.2.Ordered)
    (hmodify : entries.modify key f = some entries') : ∀ e ∈ entries', e.2.Ordered := by
  induction entries generalizing entries' with
  | nil =>
      obtain ⟨n, hn, rfl⟩ := Option.map_eq_some_iff.1 hmodify
      exact List.forall_mem_singleton.2 (hf none n (by simp) hn)
  | cons e rest ih =>
      obtain ⟨hfirst, hrest⟩ := List.forall_mem_cons.1 h
      rw [modify] at hmodify
      split at hmodify
      · obtain ⟨n, hn, rfl⟩ := Option.map_eq_some_iff.1 hmodify
        exact List.forall_mem_cons.2 ⟨hf (some e.2) n (by simpa using hfirst) hn, hrest⟩
      · obtain ⟨rest', hrest', rfl⟩ := Option.map_eq_some_iff.1 hmodify
        exact List.forall_mem_cons.2 ⟨hfirst, ih hrest hrest'⟩

theorem define_ordered (hd : d.Ordered) (h : ∀ e ∈ entries, e.2.Ordered)
    (hdefine : entries.define key d = some entries') : ∀ e ∈ entries', e.2.Ordered := by
  refine modify_ordered (fun before after _ hafter => ?_) h hdefine
  cases before with
  | none =>
      obtain rfl := Option.some.inj hafter
      exact .value hd
  | some n => cases hafter

/-- A node that holds the entries that a step made of those of an earlier one. -/
theorem ordered_of_map {f : Entries → Option Entries} {n : Node} {standing : Standing}
    (hf : ∀ after, f entries = some after → ∀ e ∈ after, e.2.Ordered)
    (h : (f entries).map (Node.table standing) = some n) : n.Ordered := by
  obtain ⟨after, hafter, rfl⟩ := Option.map_eq_some_iff.1 h
  exact .table (hf after hafter)

theorem ordered_of_latest {f : Entries → Option Entries} {n : Node} {others : List Entries}
    (h : (f entries).map (fun t => Node.tables (t :: others)) = some n) : n.Ordered := by
  obtain ⟨after, -, rfl⟩ := Option.map_eq_some_iff.1 h
  exact .tables _

theorem defineDotted_ordered (hd : d.Ordered) {standing : Standing} (h : ∀ e ∈ entries, e.2.Ordered)
    (hdefine : defineDotted key d path standing entries = some entries') : ∀ e ∈ entries', e.2.Ordered := by
  induction path generalizing standing entries entries' with
  | nil =>
      rw [defineDotted] at hdefine
      split at hdefine
      · exact define_ordered hd h hdefine
      · cases hdefine
  | cons k path ih =>
      rw [defineDotted] at hdefine
      refine modify_ordered (fun before after hbefore hafter => ?_) h hdefine
      rcases before with _ | ⟨v⟩ | ⟨_ | _ | _, inner⟩ | ⟨_ | ⟨latest, others⟩⟩
      · exact ordered_of_map (fun _ => ih (by simp)) hafter
      · cases hafter
      · cases hafter
      · exact ordered_of_map (fun _ => ih (hbefore _ rfl).inner) hafter
      · exact ordered_of_map (fun _ => ih (hbefore _ rfl).inner) hafter
      · cases hafter
      · exact ordered_of_latest hafter

theorem add_ordered (hd : d.Ordered) (h : ∀ e ∈ entries, e.2.Ordered)
    (hadd : entries.add path key d = some entries') : ∀ e ∈ entries', e.2.Ordered := by
  cases path with
  | nil => exact define_ordered hd h hadd
  | cons k path => exact defineDotted_ordered hd h hadd

theorem followHeader_ordered {f : Option Node → Option Node} (hf : Keeps f) (h : ∀ e ∈ entries, e.2.Ordered)
    (hfollow : followHeader key f path entries = some entries') : ∀ e ∈ entries', e.2.Ordered := by
  induction path generalizing entries entries' with
  | nil => exact modify_ordered hf h hfollow
  | cons k path ih =>
      rw [followHeader] at hfollow
      refine modify_ordered (fun before after hbefore hafter => ?_) h hfollow
      rcases before with _ | ⟨v⟩ | ⟨standing, inner⟩ | ⟨_ | ⟨latest, others⟩⟩
      · exact ordered_of_map (fun _ => ih (by simp)) hafter
      · cases hafter
      · exact ordered_of_map (fun _ => ih (hbefore _ rfl).inner) hafter
      · cases hafter
      · exact ordered_of_latest hafter

theorem keeps_declare : Keeps declare := by
  intro before after hbefore hafter
  rcases before with _ | ⟨v⟩ | ⟨_ | _ | _, inner⟩ | items <;> cases hafter
  · exact .table (by simp)
  · exact .table (hbefore _ rfl).inner

theorem keeps_extend : Keeps extend := by
  intro before after _ hafter
  rcases before with _ | _ | _ | items <;> cases hafter <;> exact .tables _

theorem keeps_inside {f : Entries → Option Entries}
    (hf : ∀ before after, (∀ e ∈ before, e.2.Ordered) → f before = some after → ∀ e ∈ after, e.2.Ordered) :
    Keeps (inside f) := by
  intro before after hbefore hafter
  rcases before with _ | ⟨v⟩ | ⟨standing, inner⟩ | ⟨_ | ⟨latest, others⟩⟩
  · cases hafter
  · cases hafter
  · exact ordered_of_map (fun _ => hf inner _ (hbefore _ rfl).inner) hafter
  · cases hafter
  · exact ordered_of_latest hafter

end Entries

section Values

variable {d : Datum} {cs rest : List Char}

theorem isTable_of_bounded {n : Int} (h : bounded n = some d) : d.isTable = false := by
  rw [bounded] at h
  split at h <;> cases h
  rfl

theorem isTable_of_readInBase {base : Nat} (h : readInBase base cs = some (d, rest)) : d.isTable = false := by
  simp only [readInBase, Option.bind_eq_bind, Option.bind_eq_some_iff] at h
  obtain ⟨_, -, _, hd, heq⟩ := h
  cases heq
  exact isTable_of_bounded hd

theorem isTable_of_readDecimal (h : readDecimal cs = some (d, rest)) : d.isTable = false := by
  simp only [readDecimal, Option.bind_eq_bind] at h
  split at h
  · cases h
    rfl
  · cases h
    rfl
  · simp only [Option.bind_eq_some_iff] at h
    obtain ⟨_, -, _, -, _, -, h⟩ := h
    split at h
    · obtain ⟨_, hd, heq⟩ := Option.bind_eq_some_iff.1 h
      cases heq
      exact isTable_of_bounded hd
    · split at h <;> cases h
      rfl

theorem isTable_of_readNumber (h : readNumber cs = some (d, rest)) : d.isTable = false := by
  rw [readNumber.eq_def] at h
  split at h
  · exact isTable_of_readInBase h
  · exact isTable_of_readInBase h
  · exact isTable_of_readInBase h
  · exact isTable_of_readDecimal h

theorem isTable_of_readScalar (h : readScalar cs = some (d, rest)) : d.isTable = false := by
  rw [readScalar.eq_def] at h
  split at h
  · obtain ⟨_, -, heq⟩ := Option.map_eq_some_iff.1 h
    cases heq
    rfl
  · obtain ⟨_, -, heq⟩ := Option.map_eq_some_iff.1 h
    cases heq
    rfl
  · cases h
    rfl
  · cases h
    rfl
  · split at h
    · obtain ⟨_, -, heq⟩ := Option.map_eq_some_iff.1 h
      cases heq
      rfl
    · exact isTable_of_readNumber h

/-- The values that are read, and the pairs of a table on one line. An array counts as one value, whatever
is in it. -/
theorem read_ordered (fuel : Nat) :
    (∀ depth cs d rest, readValue fuel depth cs = some (d, rest) → d.Ordered) ∧
    ∀ depth (entries entries' : Entries) cs rest, readPairs fuel depth entries cs = some (entries', rest) →
      (∀ e ∈ entries, e.2.Ordered) → ∀ e ∈ entries', e.2.Ordered := by
  induction fuel with
  | zero =>
    refine ⟨fun depth cs d rest h => ?_, fun depth entries entries' cs rest h => ?_⟩
    · rw [readValue] at h
      cases h
    · rw [readPairs] at h
      cases h
  | succ fuel ih =>
      obtain ⟨ihvalue, ihpairs⟩ := ih
      refine ⟨fun depth cs d rest h => ?_, fun depth entries entries' cs rest h hentries => ?_⟩
      · rw [readValue.eq_def] at h
        simp only at h
        split at h
        · cases h
        · cases h
        · obtain ⟨_, -, heq⟩ := Option.map_eq_some_iff.1 h
          cases heq
          exact .leaf rfl
        · split at h
          · cases h
            exact .table List.Pairwise.nil (by simp)
          · obtain ⟨⟨entries, _⟩, hpairs, heq⟩ := Option.map_eq_some_iff.1 h
            cases heq
            exact Node.Ordered.datum (.table (ihpairs _ _ _ _ _ hpairs (by simp)))
        · exact .leaf (isTable_of_readScalar h)
      · rw [readPairs] at h
        split at h
        · split at h
          · cases h
          · next hd =>
              split at h
              · next hadd _ =>
                cases h
                exact Entries.add_ordered (ihvalue _ _ _ _ hd) hentries hadd
              · next hadd _ =>
                exact ihpairs _ _ _ _ _ h (Entries.add_ordered (ihvalue _ _ _ _ hd) hentries hadd)
              · cases h
        · cases h

end Values

namespace Draft

variable {draft draft' : Draft} {path : List String} {key : String} {d : Datum} {cs rest : List Char}

theorem add_ordered (hd : d.Ordered) (h : ∀ e ∈ draft.root, e.2.Ordered)
    (hadd : draft.add path key d = some draft') : ∀ e ∈ draft'.root, e.2.Ordered := by
  obtain ⟨root, hroot, rfl⟩ := Option.map_eq_some_iff.1 hadd
  obtain ⟨_, _ | ⟨above, last⟩⟩ := draft
  · exact Entries.add_ordered hd h hroot
  · exact Entries.followHeader_ordered (Entries.keeps_inside fun _ _ => Entries.add_ordered hd) h hroot

theorem begin_ordered {array : Bool} (h : ∀ e ∈ draft.root, e.2.Ordered)
    (hbegin : draft.begin array path key = some draft') : ∀ e ∈ draft'.root, e.2.Ordered := by
  obtain ⟨root, hroot, rfl⟩ := Option.map_eq_some_iff.1 hbegin
  cases array with
  | true => exact Entries.followHeader_ordered Entries.keeps_extend h hroot
  | false => exact Entries.followHeader_ordered Entries.keeps_declare h hroot

theorem ordered_of_header {array : Bool} (h : ∀ e ∈ draft.root, e.2.Ordered)
    (hread : ((draft.begin array path key).bind fun next => (endLine? cs).bind fun rest => some (next, rest)) =
      some (draft', rest)) : ∀ e ∈ draft'.root, e.2.Ordered := by
  obtain ⟨next, hbegin, hread⟩ := Option.bind_eq_some_iff.1 hread
  obtain ⟨_, -, heq⟩ := Option.bind_eq_some_iff.1 hread
  cases heq
  exact begin_ordered h hbegin

theorem readHeader_ordered (h : ∀ e ∈ draft.root, e.2.Ordered)
    (hread : draft.readHeader cs = some (draft', rest)) : ∀ e ∈ draft'.root, e.2.Ordered := by
  rw [readHeader.eq_def] at hread
  split at hread
  · split at hread
    · exact ordered_of_header h hread
    · cases hread
  · split at hread
    · exact ordered_of_header h hread
    · cases hread
  · cases hread

theorem readPair_ordered (h : ∀ e ∈ draft.root, e.2.Ordered)
    (hread : draft.readPair cs = some (draft', rest)) : ∀ e ∈ draft'.root, e.2.Ordered := by
  rw [readPair.eq_def] at hread
  split at hread
  · obtain ⟨⟨d, _⟩, hd, hread⟩ := Option.bind_eq_some_iff.1 hread
    obtain ⟨_, hadd, hread⟩ := Option.bind_eq_some_iff.1 hread
    obtain ⟨_, -, heq⟩ := Option.bind_eq_some_iff.1 hread
    cases heq
    exact add_ordered ((read_ordered _).1 _ _ _ _ hd) h hadd
  · cases hread

theorem readLines_ordered (fuel : Nat) (h : ∀ e ∈ draft.root, e.2.Ordered)
    (hread : readLines fuel draft cs = some draft') : ∀ e ∈ draft'.root, e.2.Ordered := by
  induction fuel generalizing draft cs with
  | zero =>
      rw [readLines] at hread
      split at hread <;> cases hread
      exact h
  | succ fuel ih =>
      rw [readLines] at hread
      split at hread
      · cases hread
        exact h
      · obtain ⟨⟨next, behind⟩, hnext, hread⟩ := Option.bind_eq_some_iff.1 hread
        refine ih ?_ hread
        have hblank (hend : (endLine? (skipSpaces cs)).map (draft, ·) = some (next, behind)) :
            ∀ e ∈ next.root, e.2.Ordered := by
          obtain ⟨_, -, heq⟩ := Option.map_eq_some_iff.1 hend
          cases heq
          exact h
        split at hnext
        · exact readHeader_ordered h hnext
        · exact hblank hnext
        · exact hblank hnext
        · exact hblank hnext
        · exact readPair_ordered h hnext

end Draft

/-- The tables of a document are sorted. -/
theorem ordered_of_parse {text : String} {root : Table Datum} (h : parse text = .ok root) :
    (Datum.table root).Ordered := by
  rw [parse] at h
  split at h
  · cases h
  next draft hdraft =>
  obtain rfl := Except.ok.inj h
  have hroot := Draft.readLines_ordered _ (by simp [Draft.start]) hdraft
  exact ordered_ofList fun e he => (hroot e he).datum

end Toml

end Weaving
