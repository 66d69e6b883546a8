import Weaving.Proofs.SettingPaths

namespace Weaving

def Datum.isTable : Datum → Bool
  | .table _ => true
  | _ => false

/-- Where a key of a source leads on from the end of another one, its value stands there already. -/
def Source.OrderFree (path : String) (s : Source) : Prop :=
  ∀ e ∈ s.properties, ∀ e' ∈ s.properties, ∀ r r' q, e.1 = path ++ "." ++ r → e'.1 = path ++ "." ++ r' →
    segments r' = segments r ++ q → q ≠ [] → Datum.table (Environment.insertPath e'.2 q e.2.entries) = e.2

namespace Environment

open Datum

variable {d d' : Datum} {p q : List String} {t : Table Datum} {path : String} {s : Source}

theorem insertPath_comm (h : Apart p q) (d d' : Datum) (t : Table Datum) :
    insertPath d' q (insertPath d p t) = insertPath d p (insertPath d' q t) := by
  induction p generalizing q t with
  | nil => exact absurd rfl h.ne_nil
  | cons key p ih =>
      obtain ⟨k, q, rfl⟩ := List.exists_cons_of_ne_nil h.symm.ne_nil
      simp only [insertPath_cons]
      by_cases hk : k = key
      · subst hk
        have hapart := h.of_cons
        simp only [Table.insert_insert, tableAt_insert_self, placed_of_ne_nil hapart.ne_nil,
          placed_of_ne_nil hapart.symm.ne_nil, entries, ih hapart]
      · rw [tableAt_insert_of_ne hk, tableAt_insert_of_ne (Ne.symm hk), Table.insert_comm (Ne.symm hk)]

/-- What is put at the end of a path replaces all that is behind it. -/
theorem insertPath_over (hp : p ≠ []) (d d' : Datum) (q : List String) (t : Table Datum) :
    insertPath d p (insertPath d' (p ++ q) t) = insertPath d p t := by
  induction p generalizing t with
  | nil => exact absurd rfl hp
  | cons key p ih =>
      rw [List.cons_append, insertPath_cons, insertPath_cons, insertPath_cons, Table.insert_insert,
        tableAt_insert_self]
      cases p with
      | nil => rfl
      | cons next p =>
          have hnext : next :: p ≠ [] := List.cons_ne_nil next p
          rw [placed_of_ne_nil hnext, placed_of_ne_nil hnext,
            placed_of_ne_nil (List.append_ne_nil_of_left_ne_nil hnext q), entries, ih hnext]

/-- What is put behind the end of a path goes into the value that stands there. -/
theorem insertPath_into (hp : p ≠ []) (hq : q ≠ []) (d d' : Datum) (t : Table Datum) :
    insertPath d' (p ++ q) (insertPath d p t) = insertPath (.table (insertPath d' q d.entries)) p t := by
  induction p generalizing t with
  | nil => exact absurd rfl hp
  | cons key p ih =>
      rw [List.cons_append, insertPath_cons, insertPath_cons, insertPath_cons, Table.insert_insert,
        tableAt_insert_self]
      cases p with
      | nil => rw [List.nil_append, placed_of_ne_nil hq, placed, placed]
      | cons next p =>
          have hnext : next :: p ≠ [] := List.cons_ne_nil next p
          rw [placed_of_ne_nil hnext, placed_of_ne_nil hnext,
            placed_of_ne_nil (List.append_ne_nil_of_left_ne_nil hnext q), entries, ih hnext]

/-- A value that stands behind another one already may be put there before or after it. -/
theorem bindEntry_comm_of_behind {r r' : String} (h : segments r' = segments r ++ q) (hq : q ≠ [])
    (hthere : Datum.table (insertPath d' q d.entries) = d) (t : Table Datum) :
    bindEntry path (bindEntry path t (path ++ "." ++ r, d)) (path ++ "." ++ r', d') =
      bindEntry path (bindEntry path t (path ++ "." ++ r', d')) (path ++ "." ++ r, d) := by
  simp only [bindEntry_append]
  rw [h, insertPath_into (segments_ne_nil r) hq, hthere, insertPath_over (segments_ne_nil r)]

theorem apart_or_append (h : p ≠ q) :
    Apart p q ∨ (∃ l, l ≠ [] ∧ q = p ++ l) ∨ ∃ l, l ≠ [] ∧ p = q ++ l := by
  by_cases hpq : p <+: q
  · obtain ⟨l, rfl⟩ := hpq
    refine .inr (.inl ⟨l, ?_, rfl⟩)
    rintro rfl
    exact h (List.append_nil p).symm
  · by_cases hqp : q <+: p
    · obtain ⟨l, rfl⟩ := hqp
      refine .inr (.inr ⟨l, ?_, rfl⟩)
      rintro rfl
      exact h (List.append_nil q)
    · exact .inl ⟨hpq, hqp⟩

/-- A source answers each key with one value, however often it lists the key. -/
theorem eq_of_key_eq {key : String} (h : (key, d) ∈ s.properties) (h' : (key, d') ∈ s.properties) : d = d' :=
  Option.some.inj ((Source.mem_properties.1 h).2.symm.trans (Source.mem_properties.1 h').2)

theorem bindEntry_comm (hs : s.OrderFree path) {e e' : String × Datum}
    (he : e ∈ s.properties) (he' : e' ∈ s.properties) (t : Table Datum) :
    bindEntry path (bindEntry path t e) e' = bindEntry path (bindEntry path t e') e := by
  by_cases hr : ∃ r, e.1 = path ++ "." ++ r
  · by_cases hr' : ∃ r', e'.1 = path ++ "." ++ r'
    · obtain ⟨r, hr⟩ := hr
      obtain ⟨r', hr'⟩ := hr'
      obtain ⟨key, d⟩ := e
      obtain ⟨key', d'⟩ := e'
      obtain rfl : key = path ++ "." ++ r := hr
      obtain rfl : key' = path ++ "." ++ r' := hr'
      by_cases hsame : r = r'
      · subst hsame
        rw [eq_of_key_eq he he']
      · -- The two keys part on the way, or one of them leads on from the end of the other.
        rcases apart_or_append (segments_injective.ne hsame) with hapart | ⟨q, hq, hsegments⟩ | ⟨q, hq, hsegments⟩
        · simp only [bindEntry_append]
          exact insertPath_comm hapart d d' t
        · exact bindEntry_comm_of_behind hsegments hq (hs _ he _ he' r r' q rfl rfl hsegments hq) t
        · exact (bindEntry_comm_of_behind hsegments hq (hs _ he' _ he r' r q rfl rfl hsegments hq) t).symm
    · rw [not_exists] at hr'
      rw [bindEntry_of_ne hr', bindEntry_of_ne hr']
  · rw [not_exists] at hr
    rw [bindEntry_of_ne hr, bindEntry_of_ne hr]

theorem bindEntries_perm (hs : s.OrderFree path) {order : List (String × Datum)}
    (hperm : order.Perm s.properties) (t : Table Datum) :
    bindEntries path order t = bindEntries path s.properties t :=
  hperm.foldl_eq' (fun _ he _ he' t => bindEntry_comm hs (hperm.subset he) (hperm.subset he') t) t

theorem bindAll_of_orderFree {sources : List Source} {orders : List (List (String × Datum))}
    (hfree : ∀ s ∈ sources, s.OrderFree path)
    (horders : Enumerates orders sources) : bindAll path orders = bind ⟨sources⟩ path := by
  induction horders with
  | nil => rfl
  | cons hperm _ ih =>
      rw [List.forall_mem_cons] at hfree
      rw [bindAll, List.foldr_cons, ← bindAll, ih hfree.2, bindEntries_perm hfree.1 hperm]
      rfl

theorem exists_perm_cons_cons {α : Type} {l : List α} {a b : α} (ha : a ∈ l) (hb : b ∈ l) (hne : b ≠ a) :
    ∃ others, (a :: b :: others).Perm l := by
  obtain ⟨front, back, rfl⟩ := List.append_of_mem ha
  have hmem : b ∈ front ++ back := by
    rcases List.mem_append.1 hb with hb | hb
    · exact List.mem_append_left _ hb
    · exact List.mem_append_right _ ((List.mem_cons.1 hb).resolve_left hne)
  obtain ⟨front', back', heq⟩ := List.append_of_mem hmem
  refine ⟨front' ++ back', List.Perm.trans (.cons a ?_) List.perm_middle.symm⟩
  rw [heq]
  exact List.perm_middle.symm

/-- Of two values of which one stands behind the other without being there already, the one that is put
there last shows. -/
theorem exists_orders_of_not_orderFree (hs : ¬ s.OrderFree path) (t : Table Datum) :
    ∃ order order', order.Perm s.properties ∧ order'.Perm s.properties ∧
      bindEntries path order t ≠ bindEntries path order' t := by
  simp only [Source.OrderFree, not_forall] at hs
  obtain ⟨⟨key, d⟩, he, ⟨key', d'⟩, he', r, r', q, hr, hr', hsegments, hq, hthere⟩ := hs
  obtain rfl : key = path ++ "." ++ r := hr
  obtain rfl : key' = path ++ "." ++ r' := hr'
  have hne : (path ++ "." ++ r', d') ≠ (path ++ "." ++ r, d) := by
    intro heq
    rw [(String.append_right_inj _).1 (congrArg Prod.fst heq)] at hsegments
    exact hq (List.append_right_eq_self.1 hsegments.symm)
  obtain ⟨others, hothers⟩ := exists_perm_cons_cons he he' hne
  refine ⟨others ++ [(path ++ "." ++ r', d'), (path ++ "." ++ r, d)],
    others ++ [(path ++ "." ++ r, d), (path ++ "." ++ r', d')],
    (List.perm_append_comm.trans (.swap _ _ _)).trans hothers, List.perm_append_comm.trans hothers, fun heq => ?_⟩
  rw [bindEntries_eq_foldl, bindEntries_eq_foldl, List.foldl_append, List.foldl_append] at heq
  simp only [List.foldl_cons, List.foldl_nil, bindEntry_append] at heq
  rw [hsegments, insertPath_over (segments_ne_nil r), insertPath_into (segments_ne_nil r) hq] at heq
  have hend := congrArg (fun t => follow? (segments r) (.table t)) heq
  simp only [follow?_insertPath_self (segments_ne_nil r)] at hend
  exact hthere (Option.some.inj hend).symm

/-- A source without tables is free of its order if no key is the beginning of another one, segment by
segment. -/
theorem orderFree_iff_of_flat (hs : s.IsComplete) (hflat : ∀ e ∈ s.properties, e.2.isTable = false) :
    s.OrderFree path ↔ ∀ key ∈ s.keys, ∀ key' ∈ s.keys, ∀ p ∈ relativePath? path key,
      ∀ p' ∈ relativePath? path key', p <+: p' → p = p' := by
  constructor
  · intro h key hkey key' hkey' p hp p' hp' hbegins
    obtain ⟨r, rfl, rfl⟩ := exists_eq_append_of_relativePath? hp
    obtain ⟨r', rfl, rfl⟩ := exists_eq_append_of_relativePath? hp'
    obtain ⟨e, he, hr⟩ := List.mem_map.1 (hs.mem_map_properties.2 hkey)
    obtain ⟨e', he', hr'⟩ := List.mem_map.1 (hs.mem_map_properties.2 hkey')
    obtain ⟨q, hq⟩ := hbegins
    by_contra hne
    have hthere := h e he e' he' r r' q hr hr' hq.symm (by
      rintro rfl
      exact hne ((List.append_nil _).symm.trans hq))
    have htable := hflat e he
    rw [← hthere] at htable
    cases htable
  · intro h e he e' he' r r' q hr hr' hsegments hq
    have hmem := (Source.mem_properties.1 he).1
    have hmem' := (Source.mem_properties.1 he').1
    rw [hr] at hmem
    rw [hr'] at hmem'
    have heq := h _ hmem _ hmem' _ (relativePath?_append path r) _ (relativePath?_append path r')
      ⟨q, hsegments.symm⟩
    rw [hsegments] at heq
    exact absurd (List.append_right_eq_self.1 heq.symm) hq

/-- The table of a path does not depend on the orders in which the entries of the sources are met if no
source has a key that leads on from the end of another of its keys, unless its value stands there already.
If the source that counts first has such a key, it does depend on them. -/
theorem bind_order_free (e : Environment) (path : String) :
    ((∀ s ∈ e.sources, s.OrderFree path) →
      ∀ orders, Enumerates orders e.sources → bindAll path orders = e.bind path) ∧
    ∀ s ∈ e.sources.head?, ¬ s.OrderFree path → ∃ orders orders', Enumerates orders e.sources ∧
      Enumerates orders' e.sources ∧ bindAll path orders ≠ bindAll path orders' := by
  obtain ⟨sources⟩ := e
  refine ⟨fun hfree orders => bindAll_of_orderFree hfree, ?_⟩
  intro s hs hnot
  cases sources with
  | nil => cases hs
  | cons first rest =>
      obtain rfl : first = s := Option.some.inj hs
      obtain ⟨order, order', horder, horder', hne⟩ := exists_orders_of_not_orderFree hnot (bind ⟨rest⟩ path)
      rw [bind_eq_bindAll] at hne
      have hrest := enumerates_properties rest
      exact ⟨order :: rest.map Source.properties, order' :: rest.map Source.properties, .cons horder hrest,
        .cons horder' hrest, hne⟩

/-- A source with a value and another one behind it. -/
def unsettled : Source :=
  Source.ofEntries "m" none [("chimera.aop.enabled", .boolean false), ("chimera.aop.enabled.x", .boolean true)]

theorem enabled_depends_on_order :
    unsettled.IsComplete ∧ ∃ orders orders', Enumerates orders [unsettled] ∧ Enumerates orders' [unsettled] ∧
      bindAll "chimera.aop" orders = [("enabled", .table [("x", .boolean true)])] ∧
      bindAll "chimera.aop" orders' = [("enabled", .boolean false)] :=
  ⟨Source.isComplete_ofEntries _ _ _, [unsettled.properties], [unsettled.properties.reverse], .cons (.refl _) .nil,
    .cons (List.reverse_perm _) .nil, rfl, rfl⟩

theorem only_unsettled_depends_on_order :
    let e := layered.foldl add empty
    (∀ orders, Enumerates orders e.sources →
      bindAll "logging" orders = [("format", .text "json"), ("level", .text "debug")]) ∧
    ∃ orders orders', Enumerates orders [unsettled] ∧ Enumerates orders' [unsettled] ∧
      bindAll "chimera.aop" orders ≠ bindAll "chimera.aop" orders' := by
  intro e
  have hunsettled : unsettled.IsComplete := Source.isComplete_ofEntries _ _ _
  refine ⟨(bind_order_free e "logging").1 fun s hs => ?_,
    (bind_order_free ⟨[unsettled]⟩ "chimera.aop").2 unsettled rfl fun hfree => ?_⟩
  · have hmem := mem_sources_added.1 hs
    simp only [layered, List.mem_cons, List.not_mem_nil, or_false] at hmem
    rcases hmem with rfl | rfl <;>
      exact (orderFree_iff_of_flat (Source.isComplete_ofEntries _ _ _) (by decide)).2 (by decide)
  · rw [orderFree_iff_of_flat hunsettled (by decide)] at hfree
    revert hfree
    decide

end Environment

end Weaving
