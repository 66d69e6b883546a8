import Mathlib.Data.List.Forall2
import Weaving.Aspect.IncludePatterns
import Weaving.Proofs.LibraryMeaning

namespace Weaving.IncludePatterns

open Regex (Covers FoundIn Place)

variable {lib : RegexLibrary} {language : String → Option (Place → Place → Prop)} {pattern : String}
  {patterns : List String} {searches : List (String → Bool)} {found : String → Bool} {name : String}

theorem compile_of_compileOne (h : compileOne lib pattern = .ok found) : lib.compile (enclosed pattern) = .ok found := by
  unfold compileOne at h
  cases hcompile : lib.compile (enclosed pattern) with
  | error reason => rw [hcompile] at h; cases h
  | ok found' =>
    rw [hcompile] at h
    cases h
    rfl

/-- Each search is what a pattern is compiled to between the two ends of a name. -/
def Compiled (lib : RegexLibrary) : List String → List (String → Bool) → Prop :=
  List.Forall₂ fun p found => lib.compile (enclosed p) = .ok found

theorem compiled_of_mapM (h : patterns.mapM (compileOne lib) = .ok searches) : Compiled lib patterns searches := by
  induction patterns generalizing searches with
  | nil =>
    obtain rfl : [] = searches := Except.ok.inj h
    exact .nil
  | cons p patterns ih =>
    rw [List.mapM_cons] at h
    rcases hp : compileOne lib p with error | found
    · rw [hp] at h
      cases h
    rcases hrest : patterns.mapM (compileOne lib) with error | rest
    · rw [hp, hrest] at h
      cases h
    rw [hp, hrest] at h
    obtain rfl : found :: rest = searches := Except.ok.inj h
    exact .cons (compile_of_compileOne hp) (ih hrest)

theorem compiled_of_compile {wanted : IncludePatterns} (h : compile lib patterns = .ok wanted) :
    Compiled lib patterns wanted.patterns := by
  rcases hmap : patterns.mapM (compileOne lib) with error | searches
  · rw [compile, hmap] at h
    cases h
  rw [compile, hmap] at h
  obtain rfl : mk searches = wanted := Except.ok.inj h
  exact compiled_of_mapM hmap

theorem Compiled.exists_search_iff (h : Compiled lib patterns searches) (P : (String → Bool) → Prop) :
    (∃ found ∈ searches, P found) ↔ ∃ p ∈ patterns, ∃ found, lib.compile (enclosed p) = .ok found ∧ P found := by
  induction h with
  | nil => simp
  | cons hcompile _ ih => simp [hcompile, ih]

theorem Compiled.exists_compile (h : Compiled lib patterns searches) (hp : pattern ∈ patterns) :
    ∃ found, lib.compile (enclosed pattern) = .ok found := by
  obtain ⟨i, hi, rfl⟩ := List.mem_iff_getElem.mp hp
  exact ⟨_, List.Forall₂.get h hi (List.Forall₂.length_eq h ▸ hi)⟩

theorem Compiled.isEligible_iff {wanted : IncludePatterns} (h : Compiled lib patterns wanted.patterns)
    (name : String) :
    wanted.isEligible name = true ↔
      patterns = [] ∨ ∃ p ∈ patterns, ∃ found, lib.compile (enclosed p) = .ok found ∧ found name = true := by
  have hnil : wanted.patterns = [] ↔ patterns = [] := by
    rw [← List.length_eq_zero_iff, ← List.length_eq_zero_iff, List.Forall₂.length_eq h]
  simp only [isEligible, isEmpty, Bool.or_eq_true, List.isEmpty_iff, List.any_eq_true, hnil, h.exists_search_iff]

/-- A pattern that is well-formed alone finds the names that it describes from end to end. -/
theorem found_enclosed_iff (hlib : lib.IsDocumented language) {S : Place → Place → Prop}
    (halone : language pattern = some S) (hcompile : lib.compile (enclosed pattern) = .ok found) (name : String) :
    found name = true ↔ Covers S name := by
  obtain ⟨Grouped, hgrouped⟩ := Option.isSome_iff_exists.mp (hlib.isSome_of_compile hcompile)
  have hanchored : Grouped = fun p q => ∃ first last, RegexLibrary.Part.start.Spans p first ∧ S first last ∧
      RegexLibrary.Part.finish.Spans last q := funext₂ fun p q => propext (hlib.group halone hgrouped p q)
  rw [hlib.found_iff hcompile hgrouped, hanchored]
  exact RegexLibrary.foundIn_anchored_iff (fun _ _ => hlib.leads halone) name

/-- With any library that works as its manual says: a pattern that is well-formed alone has to describe the
whole name. The text of a pattern is only checked between the two ends of a name, so one that is well-formed
there but not alone is accepted as well, and then it is enough that what it stands for there is found in the
name. -/
theorem isEligible_iff_describes (hlib : lib.IsDocumented language) {wanted : IncludePatterns}
    (h : compile lib patterns = .ok wanted) (name : String) :
    wanted.isEligible name = true ↔
      patterns = [] ∨
        (∃ p ∈ patterns, ∃ S, language p = some S ∧ Covers S name) ∨
        ∃ p ∈ patterns, language p = none ∧ ∃ S, language (enclosed p) = some S ∧ FoundIn S name := by
  have hcompiled := compiled_of_compile h
  rw [hcompiled.isEligible_iff]
  constructor
  · rintro (hnil | ⟨p, hp, found, hcompile, hfound⟩)
    · exact .inl hnil
    · rcases halone : language p with _ | S
      · obtain ⟨S, hS⟩ := Option.isSome_iff_exists.mp (hlib.isSome_of_compile hcompile)
        exact .inr (.inr ⟨p, hp, halone, S, hS, (hlib.found_iff hcompile hS name).mp hfound⟩)
      · exact .inr (.inl ⟨p, hp, S, halone, (found_enclosed_iff hlib halone hcompile name).mp hfound⟩)
  · rintro (hnil | ⟨p, hp, S, halone, hcovers⟩ | ⟨p, hp, -, S, hS, hfound⟩)
    · exact .inl hnil
    · obtain ⟨found, hcompile⟩ := hcompiled.exists_compile hp
      exact .inr ⟨p, hp, found, hcompile, (found_enclosed_iff hlib halone hcompile name).mpr hcovers⟩
    · obtain ⟨found, hcompile⟩ := hcompiled.exists_compile hp
      exact .inr ⟨p, hp, found, hcompile, (hlib.found_iff hcompile hS name).mpr hfound⟩

theorem security_and_audit_whole_names :
    ∃ wanted, compile Regex.library ["security.*", "audit"] = .ok wanted ∧
      wanted.isEligible "securityAspect" = true ∧ wanted.isEligible "auditing" = false := by
  have hok : (compile Regex.library ["security.*", "audit"]).isOk = true := by decide +kernel
  rcases hcompile : compile Regex.library ["security.*", "audit"] with error | wanted
  · rw [hcompile] at hok
    cases hok
  have hsecurity :
      (Regex.parse? "security.*").map (fun r => (r.matchesAll "securityAspect", r.matchesAll "auditing")) =
        some (true, false) := by decide +kernel
  have haudit : (Regex.parse? "audit").map (·.matchesAll "auditing") = some false := by decide +kernel
  obtain ⟨security, hs, hsecurity⟩ := Option.map_eq_some_iff.mp hsecurity
  obtain ⟨audit, ha, haudit⟩ := Option.map_eq_some_iff.mp haudit
  obtain ⟨hmatch, hpart⟩ := Prod.mk.inj hsecurity
  have hlaw := isEligible_iff_describes Regex.library_isDocumented hcompile
  refine ⟨wanted, rfl, ?_, ?_⟩
  · exact (hlaw "securityAspect").mpr
      (.inr (.inl ⟨"security.*", by simp, _, Regex.language_eq_some_iff.mpr ⟨security, hs, rfl⟩,
        Regex.matchesAll_iff.mp hmatch⟩))
  · have hsecurityCovers : ¬Covers security.Spans "auditing" := by
      rw [← Regex.matchesAll_iff, hpart]
      exact Bool.false_ne_true
    have hauditCovers : ¬Covers audit.Spans "auditing" := by
      rw [← Regex.matchesAll_iff, haudit]
      exact Bool.false_ne_true
    rw [← Bool.not_eq_true, hlaw "auditing"]
    simp [Regex.language, hs, ha, hsecurityCovers, hauditCovers]

/-- A pattern that closes its group is malformed alone, but is accepted and finds a part of a name. -/
theorem unbalanced_pattern_finds_part :
    ∃ wanted, compile Regex.library ["audit)|(?:security.*"] = .ok wanted ∧ wanted.isEligible "auditing" = true ∧
      ¬∃ p ∈ ["audit)|(?:security.*"], ∃ S, Regex.language p = some S ∧ Covers S "auditing" := by
  have hok : (compile Regex.library ["audit)|(?:security.*"]).toOption.map (·.isEligible "auditing") = some true := by
    decide +kernel
  have hnone : (Regex.parse? "audit)|(?:security.*").isNone = true := by decide +kernel
  rcases hcompile : compile Regex.library ["audit)|(?:security.*"] with error | wanted
  · rw [hcompile] at hok
    cases hok
  rw [hcompile] at hok
  exact ⟨wanted, rfl, Option.some.inj hok, by simp [Regex.language, Option.isNone_iff_eq_none.mp hnone]⟩

end Weaving.IncludePatterns
