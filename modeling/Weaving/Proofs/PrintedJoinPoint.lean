import Weaving.Advice.JoinPoint
import Weaving.Proofs.ExpressionWriting
import Weaving.Proofs.NameFilling
import Weaving.Proofs.ParameterAlignment

namespace Weaving

/-- Not empty, and free of blanks and of the given characters. -/
def IsBare (name : String) (without : List Char) : Prop :=
  name ≠ "" ∧ ∀ c ∈ name.toList, Text.isBlank c = false ∧ c ∉ without

instance (name : String) (without : List Char) : Decidable (IsBare name without) :=
  decidable_of_iff ((name != "" && name.toList.all fun c => !Text.isBlank c && !without.contains c) = true)
    (by simp [IsBare])

section Names

variable {name : String} {without : List Char}

theorem IsBare.not_mem (h : IsBare name without) {c : Char} (hc : c ∈ without) : c ∉ name.toList :=
  fun hmem => (h.2 c hmem).2 hc

theorem IsBare.not_isBlank (h : IsBare name without) : ∀ c ∈ name.toList, Text.isBlank c = false :=
  fun c hc => (h.2 c hc).1

theorem IsBare.toList_ne_nil (h : IsBare name without) : name.toList ≠ [] :=
  String.toList_eq_nil_iff.not.2 h.1

end Names

namespace Text

variable {separator c : Char} {s : List Char} {names : List String}

/-- A blank in front changes nothing once the pieces are without the blanks at their ends. -/
theorem map_trimBlanks_pieces_cons (hblank : isBlank c = true) (hne : c ≠ separator) (s : List Char) :
    (pieces separator (c :: s)).map trimBlanks = (pieces separator s).map trimBlanks := by
  rw [pieces, if_neg hne]
  cases hpieces : pieces separator s with
  | nil => exact absurd hpieces (pieces_ne_nil separator s)
  | cons piece rest => rw [List.map_cons, List.map_cons, trimBlanks_cons hblank]

theorem toList_commaList_cons_cons (first second : String) (rest : List String) :
    (commaList (first :: second :: rest)).toList =
      first.toList ++ ',' :: ' ' :: (commaList (second :: rest)).toList := by
  simp [commaList, String.intercalate_cons_cons]

theorem pieces_commaList (hne : names ≠ [])
    (h : ∀ name ∈ names, ',' ∉ name.toList ∧ ∀ c ∈ name.toList, isBlank c = false) :
    (pieces ',' (commaList names).toList).map trimBlanks = names.map String.toList := by
  induction names with
  | nil => exact absurd rfl hne
  | cons name rest ih =>
      obtain ⟨⟨hcomma, hblank⟩, hrest⟩ := List.forall_mem_cons.1 h
      have htrim : trimBlanks name.toList = name.toList := trimBlanks_eq_self
        (fun c hc => hblank c (List.mem_of_mem_head? hc)) (fun c hc => hblank c (List.mem_of_mem_getLast? hc))
      cases rest with
      | nil => simp [commaList, pieces_of_not_mem hcomma, htrim]
      | cons second rest =>
          rw [toList_commaList_cons_cons, pieces_append, List.map_append, pieces_of_not_mem hcomma,
            map_trimBlanks_pieces_cons (by decide) (by decide), ih (List.cons_ne_nil _ _) hrest,
            List.map_singleton, htrim]
          rfl

end Text

namespace ArgPattern

theorem ofList_commaList {names : List String} (hne : names ≠ [])
    (h : ∀ name ∈ names, IsBare name [',', '*', '(', ')'] ∧ name ≠ "..") :
    ofList (Text.commaList names).toList = names.map fun name => named ⟨name⟩ := by
  have hpieces : (Text.pieces ',' (Text.commaList names).toList).map Text.trimBlanks =
      names.map String.toList := by
    refine Text.pieces_commaList hne fun name hname => ?_
    exact ⟨(h name hname).1.not_mem (by decide), (h name hname).1.not_isBlank⟩
  have hlist : ofList (Text.commaList names).toList =
      ((Text.pieces ',' (Text.commaList names).toList).map Text.trimBlanks).map
        fun piece => ofText (String.ofList piece) := by
    rw [List.map_map]
    rfl
  rw [hlist, hpieces, List.map_map]
  refine List.map_congr_left fun name hname => ?_
  obtain ⟨hbare, hdots⟩ := h name hname
  have hstar : name ≠ "*" := by
    rintro rfl
    exact hbare.not_mem (c := '*') (by decide) (by decide)
  rw [Function.comp_apply, String.ofList_toList, ofText_eq_named hstar hdots]

/-- A list of the names of types is read as the elements that stand for these types. -/
theorem parse_commaList {names : List String}
    (h : ∀ name ∈ names, IsBare name [',', '*', '(', ')'] ∧ name ≠ "..") :
    parse (Text.commaList names).toList = .ok (names.map fun name => named ⟨name⟩) := by
  cases names with
  | nil => rfl
  | cons name rest =>
      have hbare := (h name List.mem_cons_self).1
      obtain ⟨c, hc⟩ := List.exists_mem_of_ne_nil _ hbare.toList_ne_nil
      have hmem : c ∈ (Text.commaList (name :: rest)).toList := by
        cases rest with
        | nil => simpa [Text.commaList] using hc
        | cons => rw [Text.toList_commaList_cons_cons]; exact List.mem_append_left _ hc
      have hempty : named ⟨""⟩ ∉ (name :: rest).map fun name => named ⟨name⟩ := by
        rw [List.mem_map]
        rintro ⟨other, hother, heq⟩
        exact (h other hother).1.1 (by simpa using heq)
      have hdots : ellipsis ∉ (name :: rest).map fun name => named ⟨name⟩ := by simp
      rw [parse, if_neg (by simpa using Text.trimBlanks_ne_nil hmem (hbare.not_isBlank c hc)),
        ofList_commaList (List.cons_ne_nil name rest) h]
      dsimp only
      rw [if_neg (by simpa using hempty), List.count_eq_zero.2 hdots]
      rfl

end ArgPattern

namespace Method

variable {m : Method}

/-- The names of the method stay whole when its printed form is taken apart at the points, commas and
parentheses in it. -/
structure IsPrintable (m : Method) : Prop where
  owner : IsBare m.owner.name ['.', ',', '*', '(', ')']
  name : IsBare m.name ['.', ',', '*', '(', ')']
  parameters : ∀ name ∈ m.parameters.map TypeInfo.name, IsBare name [',', '*', '(', ')'] ∧ name ≠ ".."

/-- The pattern of the method's owner, name and parameters, with any result. -/
def pattern (m : Method) : ExecutionPattern where
  source := m.render
  returns := ⟨"*"⟩
  owner := some ⟨m.owner.name⟩
  method := ⟨m.name⟩
  parameters := (m.parameters.map TypeInfo.name).map fun name => .named ⟨name⟩

theorem toList_render (m : Method) : m.render.toList = m.owner.name.toList ++ '.' :: m.name.toList ++
    '(' :: ((Text.commaList (m.parameters.map TypeInfo.name)).toList ++ [')']) := by
  simp [render]

theorem IsPrintable.splitHead (h : m.IsPrintable) :
    ExecutionPattern.splitHead ((Text.words (m.owner.name.toList ++ '.' :: m.name.toList)).map String.ofList) =
      some (⟨"*"⟩, m.owner.name ++ "." ++ m.name) := by
  have hword : Text.words (m.owner.name.toList ++ '.' :: m.name.toList) =
      [m.owner.name.toList ++ '.' :: m.name.toList] := by
    refine Text.words_eq_singleton (by simp) ?_
    exact List.forall_mem_append.2 ⟨h.owner.not_isBlank, List.forall_mem_cons.2 ⟨by decide, h.name.not_isBlank⟩⟩
  have htext : String.ofList (m.owner.name.toList ++ '.' :: m.name.toList) = m.owner.name ++ "." ++ m.name := by
    rw [← String.toList_inj]
    simp
  rw [hword, List.map_singleton, htext]
  rfl

theorem IsPrintable.splitOwner (h : m.IsPrintable) :
    ExecutionPattern.splitOwner (m.owner.name ++ "." ++ m.name) = (some ⟨m.owner.name⟩, m.name) := by
  have htext : (m.owner.name ++ "." ++ m.name).toList = m.owner.name.toList ++ '.' :: m.name.toList := by simp
  rw [ExecutionPattern.splitOwner, htext, Text.splitLast_append (h.name.not_mem (by decide))]
  simp only [String.ofList_toList, Text.lastSegment_of_not_mem (h.owner.not_mem (c := '.') (by decide))]

theorem IsPrintable.parse_render (h : m.IsPrintable) : ExecutionPattern.parse m.render = .ok m.pattern := by
  have hopen : '(' ∉ m.owner.name.toList ++ '.' :: m.name.toList := by
    simp [h.owner.not_mem (c := '('), h.name.not_mem (c := '(')]
  have hparameters := ArgPattern.parse_commaList h.parameters
  have hname : m.name.isEmpty = false := by simpa using h.name.1
  have howner : (NamePattern.mk m.owner.name).isWildcard = false :=
    NamePattern.isWildcard_of_not_mem (h.owner.not_mem (by decide))
  simp only [ExecutionPattern.parse, m.toList_render, Text.splitFirst_append hopen, List.getLast?_concat,
    List.dropLast_concat, hparameters, h.splitHead, h.splitOwner, bind, Except.bind, hname, Option.filter,
    howner]
  rfl

theorem balanced_of_not_mem {s : List Char} (hopen : '(' ∉ s) (hclose : ')' ∉ s) : Token.Balanced s := by
  induction s with
  | nil => exact .nil
  | cons c rest ih =>
      obtain ⟨hc, hopen⟩ := not_or.1 (List.mem_cons.not.1 hopen)
      obtain ⟨hc', hclose⟩ := not_or.1 (List.mem_cons.not.1 hclose)
      exact .char (Ne.symm hc) (Ne.symm hc') (ih hopen hclose)

theorem balanced_commaList {names : List String}
    (h : ∀ name ∈ names, '(' ∉ name.toList ∧ ')' ∉ name.toList) :
    Token.Balanced (Text.commaList names).toList := by
  induction names with
  | nil => exact .nil
  | cons name rest ih =>
      obtain ⟨⟨hopen, hclose⟩, hrest⟩ := List.forall_mem_cons.1 h
      have hname := balanced_of_not_mem hopen hclose
      cases rest with
      | nil => simpa [Text.commaList] using hname
      | cons second rest =>
          rw [Text.toList_commaList_cons_cons]
          exact hname.append (.char (by decide) (by decide) (.char (by decide) (by decide) (ih hrest)))

theorem IsPrintable.isBody (h : m.IsPrintable) : Token.IsBody m.render.toList := by
  rw [toList_render]
  constructor
  · have hhead : Token.Balanced (m.owner.name.toList ++ '.' :: m.name.toList) := by
      refine balanced_of_not_mem ?_ ?_
      · simp [h.owner.not_mem (c := '('), h.name.not_mem (c := '(')]
      · simp [h.owner.not_mem (c := ')'), h.name.not_mem (c := ')')]
    have hlist : Token.Balanced (Text.commaList (m.parameters.map TypeInfo.name)).toList := by
      refine balanced_commaList fun name hname => ?_
      exact ⟨(h.parameters name hname).1.not_mem (by decide), (h.parameters name hname).1.not_mem (by decide)⟩
    exact hhead.append (.group hlist .nil)
  · obtain ⟨c, rest, howner⟩ := List.exists_cons_of_ne_nil h.owner.toList_ne_nil
    have hfirst : Text.isBlank c = false := h.owner.not_isBlank c (by rw [howner]; exact List.mem_cons_self)
    refine Text.trimBlanks_eq_self ?_ ?_
    · simpa [howner] using hfirst
    · rw [← List.cons_append, ← List.append_assoc, List.getLast?_concat]
      simp only [Option.mem_def, Option.some.injEq, forall_eq']
      decide

theorem IsPrintable.scan (h : m.IsPrintable) :
    Token.scan (JoinPoint.renderStatic m) = .ok [.call "execution" m.render] := by
  obtain ⟨hbalanced, htrim⟩ := h.isBody
  have hword : Token.IsWord "execution".toList :=
    ⟨_, _, rfl, by decide +kernel, List.all_eq_true.1 (by decide +kernel)⟩
  have hspelled := Token.Spelled.call hword (by rfl) (nofun : ∀ c ∈ [], _) hbalanced .nil
  rw [htrim, String.ofList_toList, String.ofList_toList] at hspelled
  have htext : (JoinPoint.renderStatic m).toList = "execution".toList ++ [] ++ '(' :: m.render.toList ++ [')'] := by
    simp [JoinPoint.renderStatic]
  rw [Token.scan_eq_ok_iff, htext]
  exact hspelled

theorem IsPrintable.parse (h : m.IsPrintable) :
    Expr.parse [] (JoinPoint.renderStatic m) = .ok (.execution m.pattern) := by
  rw [Expr.parse_eq_ok_iff]
  have hwritten := ExecutionPattern.parse_eq_ok_iff.1 h.parse_render
  exact ⟨_, h.scan, .ofConjunction (.ofUnary (.ofPrimary (.call (.execution hwritten))))⟩

theorem forall₂_takesType_iff {types types' : List TypeInfo}
    (h : ∀ name ∈ types.map TypeInfo.name, '*' ∉ name.toList) :
    List.Forall₂ ArgPattern.TakesType ((types.map TypeInfo.name).map fun name => .named ⟨name⟩) types' ↔
      List.Forall₂ (fun type type' => type.name ∈ type'.names) types types' := by
  induction types generalizing types' with
  | nil => simp
  | cons type types ih =>
      obtain ⟨hstar, hrest⟩ := List.forall_mem_cons.1 h
      cases types' with
      | nil => simp
      | cons type' types' =>
          rw [List.map_cons, List.map_cons, List.forall₂_cons, List.forall₂_cons, ih hrest, ArgPattern.TakesType,
            NamePattern.acceptsType_iff_of_not_mem hstar]

theorem IsPrintable.accepts_iff (h : m.IsPrintable) (other : Method) (target : TypeInfo) :
    m.pattern.accepts other target = true ↔
      (m.owner.name ∈ target.names ∨ m.owner.name ∈ other.owner.names) ∧ other.name = m.name ∧
        List.Forall₂ (fun type type' => type.name ∈ type'.names) m.parameters other.parameters := by
  have hdots : ArgPattern.ellipsis ∉ m.pattern.parameters := by simp [pattern]
  have howner : '*' ∉ m.owner.name.toList := h.owner.not_mem (by decide)
  have hname : '*' ∉ m.name.toList := h.name.not_mem (by decide)
  have hparameters : m.pattern.acceptsParameters other = true ↔
      List.Forall₂ (fun type type' => type.name ∈ type'.names) m.parameters other.parameters := by
    rw [ExecutionPattern.acceptsParameters_iff_fits (by rw [List.count_eq_zero.2 hdots]; exact Nat.zero_le 1),
      ArgPattern.fits_iff_of_not_mem hdots]
    exact forall₂_takesType_iff fun name hmem => (h.parameters name hmem).1.not_mem (by decide)
  have hreturn : m.pattern.acceptsReturn other = true := rfl
  simp only [ExecutionPattern.accepts, Bool.and_eq_true, hparameters, hreturn, and_true, and_assoc]
  simp only [ExecutionPattern.acceptsOwner, pattern, Bool.or_eq_true,
    NamePattern.acceptsType_iff_of_not_mem howner, NamePattern.accepts_iff_of_not_mem hname]

end Method

namespace ExpressionPointcut

theorem canApply_printed_iff {m : Method} (h : m.IsPrintable) (expression : String) (formals : Formals)
    (other : Method) (target : TypeInfo) :
    (ExpressionPointcut.mk expression (.execution m.pattern) formals).toPointcut.canApply other target = true ↔
      m.owner.name ∈ target.names ∧ other.name = m.name ∧
        List.Forall₂ (fun type type' => type.name ∈ type'.names) m.parameters other.parameters := by
  have hstar : '*' ∉ m.owner.name.toList := h.owner.not_mem (by decide)
  have hfilter : (Expr.execution m.pattern).classFilter.accepts target = true ↔
      m.owner.name ∈ target.names := NamePattern.acceptsType_iff_of_not_mem hstar target
  have hmatcher : ((Expr.execution m.pattern).matcher formals).accepts other target = true ↔ _ :=
    h.accepts_iff other target
  rw [Pointcut.canApply, toPointcut, Bool.and_eq_true, hfilter, hmatcher]
  constructor
  · rintro ⟨howner, -, hrest⟩
    exact ⟨howner, hrest⟩
  · rintro ⟨howner, hrest⟩
    exact ⟨howner, .inl howner, hrest⟩

/-- The text of a join point is the expression of a pointcut for it. The pointcut applies to the methods of the
same name with as many parameters, each of which answers to the name of the type at its place, on the target
types that answer to the name of the owner. -/
theorem parse_printed_join_point (j : JoinPoint) (h : j.method.IsPrintable) :
    ∃ p, parse [] j.render = .ok p ∧ parse [] (JoinPoint.renderStatic j.method) = .ok p ∧
      (∀ target : TypeInfo, j.method.owner.name ∈ target.names → p.toPointcut.canApply j.method target = true) ∧
      (∀ other target, other.name ≠ j.method.name ∨ other.parameters.length ≠ j.method.parameters.length →
        p.toPointcut.canApply other target = false) ∧
      ∀ other target, p.toPointcut.canApply other target = true ↔
        j.method.owner.name ∈ target.names ∧ other.name = j.method.name ∧
          List.Forall₂ (fun type type' => type.name ∈ type'.names) j.method.parameters other.parameters := by
  have hparse : parse [] j.render = .ok ⟨j.render, .execution j.method.pattern, .empty⟩ := by
    have htree : Expr.parse [] j.render = .ok (.execution j.method.pattern) := h.parse
    rw [parse, htree]
  have happlies := canApply_printed_iff h j.render .empty
  refine ⟨_, hparse, hparse, fun target htarget => ?_, fun other target hother => ?_, happlies⟩
  · rw [happlies]
    exact ⟨htarget, rfl, List.forall₂_same.2 fun type _ => List.mem_cons_self⟩
  · rw [← Bool.not_eq_true, happlies]
    rintro ⟨-, hname, hparameters⟩
    exact hother.elim (fun h => h hname) fun h => h hparameters.length_eq.symm

/-- A type in a list may have points in its name, and parameters may have types of the same name. -/
theorem printed_transfer_is_pointcut :
    let account : TypeInfo := ⟨"Konto-1", none, ["Auditable"]⟩
    let transfer : Method :=
      ⟨account, "überweise!", [.ofName "core::option::Option<u32>", .ofName "a.b..", .ofName "."], none⟩
    let j : JoinPoint := .ofCall transfer account []
    let savings : TypeInfo := ⟨"Sparbuch", none, ["Konto-1"]⟩
    let close : Method := { transfer with parameters := [.any] }
    transfer.IsPrintable ∧ j.render = "execution(Konto-1.überweise!(core::option::Option<u32>, a.b.., .))" ∧
      ∃ p, parse [] j.render = .ok p ∧ p.toPointcut.canApply transfer savings = true ∧
        p.toPointcut.canApply close savings = false := by
  intro account transfer j savings close
  have hprintable : transfer.IsPrintable := ⟨by decide, by decide, by decide⟩
  obtain ⟨p, hparse, -, happlies, hother, -⟩ := parse_printed_join_point j hprintable
  refine ⟨hprintable, by rfl, p, hparse, happlies savings (by decide), hother close savings (.inr (by decide))⟩

end ExpressionPointcut

end Weaving
