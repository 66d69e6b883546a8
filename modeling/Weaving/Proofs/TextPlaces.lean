import Weaving.Regex.Place

namespace Weaving.Regex

/-- A place that is the given one, or further on in the same text. -/
def Place.Leads (p q : Place) : Prop :=
  ∃ taken, p.after = taken ++ q.after ∧ q.before = taken.reverse ++ p.before

/-- One of the stretches is in the text. -/
def FoundIn (S : Place → Place → Prop) (text : String) : Prop :=
  ∃ p q, (Place.start text.toList).Leads p ∧ S p q

/-- One of the stretches is the whole text. -/
def Covers (S : Place → Place → Prop) (text : String) : Prop :=
  S (.start text.toList) ⟨text.toList.reverse, []⟩

variable {p q s : Place}

namespace Place.Leads

theorem refl (p : Place) : p.Leads p := ⟨[], rfl, rfl⟩

theorem trans (hpq : p.Leads q) (hqs : q.Leads s) : p.Leads s := by
  obtain ⟨front, hafter, hbefore⟩ := hpq
  obtain ⟨behind, hafter', hbefore'⟩ := hqs
  exact ⟨front ++ behind, by simp [hafter, hafter'], by simp [hbefore, hbefore']⟩

theorem eq_or_lt (h : p.Leads q) : q = p ∨ q.after.length < p.after.length := by
  obtain ⟨taken, hafter, hbefore⟩ := h
  cases taken with
  | nil =>
    obtain ⟨before, after⟩ := p
    obtain ⟨before', after'⟩ := q
    exact .inl (by simp_all)
  | cons c taken =>
    right
    rw [hafter, List.length_append, List.length_cons]
    omega

theorem eq_end {text : List Char} (h : (start text).Leads q) (hq : q.after = []) :
    q = ⟨text.reverse, []⟩ := by
  obtain ⟨taken, hafter, hbefore⟩ := h
  obtain ⟨before, after⟩ := q
  simp_all [start]

end Place.Leads

end Weaving.Regex
