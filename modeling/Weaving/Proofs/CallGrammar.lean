import Weaving.Expression.Expr
import Weaving.Proofs.TextSplitting

namespace Weaving

namespace ArgPattern

/-- The text of an element of a parameter list. -/
inductive IsWritten : List Char → ArgPattern → Prop
  | any : IsWritten ['*'] .any
  | ellipsis : IsWritten ['.', '.'] .ellipsis
  | named {name : List Char} (hne : name ≠ []) (hany : name ≠ ['*']) (hellipsis : name ≠ ['.', '.']) :
      IsWritten name (.named ⟨String.ofList name⟩)

/-- The text of a parameter list: nothing but blanks, or elements with blanks around them and commas
between them, at most one of which is `..`. -/
inductive AreWritten : List Char → List ArgPattern → Prop
  | none {body : List Char} (h : ∀ c ∈ body, Text.isBlank c = true) : AreWritten body []
  | some {pieces : List (List Char)} {patterns : List ArgPattern} (hne : pieces ≠ [])
      (hcomma : ∀ piece ∈ pieces, ',' ∉ piece)
      (helements : List.Forall₂ (fun piece pattern => ∃ text, Text.IsTrimmed piece text ∧ IsWritten text pattern)
        pieces patterns)
      (hone : patterns.count .ellipsis ≤ 1) : AreWritten ([','].intercalate pieces) patterns

variable {text body : List Char} {pattern : ArgPattern} {patterns : List ArgPattern}

theorem ofText_eq_named {name : String} (hstar : name ≠ "*") (hdots : name ≠ "..") :
    ofText name = named ⟨name⟩ := by
  unfold ofText
  split
  · exact absurd rfl hstar
  · exact absurd rfl hdots
  · rfl

theorem isWritten_iff : IsWritten text pattern ↔ text ≠ [] ∧ ofText (String.ofList text) = pattern := by
  constructor
  · intro h
    cases h with
    | any | ellipsis => exact ⟨List.cons_ne_nil _ _, rfl⟩
    | named hne hany hellipsis =>
        refine ⟨hne, ofText_eq_named (fun h => hany ?_) fun h => hellipsis ?_⟩
        · exact String.ofList_injective h
        · exact String.ofList_injective h
  · rintro ⟨hne, rfl⟩
    by_cases hany : text = ['*']
    · rw [hany]
      exact .any
    · by_cases hellipsis : text = ['.', '.']
      · rw [hellipsis]
        exact .ellipsis
      · rw [ofText_eq_named (fun h => hany (String.ofList_injective h))
          fun h => hellipsis (String.ofList_injective h)]
        exact .named hne hany hellipsis

theorem ofText_eq_empty_iff : ofText (String.ofList text) = named ⟨""⟩ ↔ text = [] := by
  constructor
  · intro h
    by_contra hne
    have hwritten : IsWritten text (named ⟨""⟩) := isWritten_iff.2 ⟨hne, h⟩
    generalize hempty : (named ⟨""⟩ : ArgPattern) = pattern at hwritten
    cases hwritten with
    | any | ellipsis => cases hempty
    | named =>
        have htext : "" = String.ofList text := congrArg NamePattern.text (ArgPattern.named.inj hempty)
        exact hne (String.ofList_injective htext.symm)
  · rintro rfl
    rfl

/-- The elements of a list are those that its pieces are read as, if none of them is empty. -/
theorem forall₂_isWritten_iff {pieces : List (List Char)} :
    List.Forall₂ (fun piece pattern => ∃ text, Text.IsTrimmed piece text ∧ IsWritten text pattern)
        pieces patterns ↔
      (∀ piece ∈ pieces, Text.trimBlanks piece ≠ []) ∧
        (pieces.map fun piece => ofText (String.ofList (Text.trimBlanks piece))) = patterns := by
  have hpiece : ∀ piece pattern, (∃ text, Text.IsTrimmed piece text ∧ IsWritten text pattern) ↔
      Text.trimBlanks piece ≠ [] ∧ ofText (String.ofList (Text.trimBlanks piece)) = pattern := by
    intro piece pattern
    simp only [Text.isTrimmed_iff, isWritten_iff, exists_eq_left']
  simp only [hpiece]
  induction pieces generalizing patterns with
  | nil =>
      cases patterns with
      | nil => simp
      | cons pattern patterns => exact ⟨nofun, fun h => nomatch h.2⟩
  | cons piece rest ih =>
      cases patterns with
      | nil => exact ⟨nofun, fun h => nomatch h.2⟩
      | cons pattern patterns =>
          refine List.forall₂_cons.trans ((and_congr_right' ih).trans ?_)
          rw [List.forall_mem_cons, List.map_cons, List.cons.injEq]
          tauto

theorem contains_empty_iff : (ofList body).contains (named ⟨""⟩) = true ↔
    ∃ piece ∈ Text.pieces ',' body, Text.trimBlanks piece = [] := by
  simp only [List.contains_iff_mem, ofList, List.mem_map, ofText_eq_empty_iff]

/-- A text of blanks would be one piece, and that piece would be empty. -/
theorem trimBlanks_intercalate_ne_nil {pieces : List (List Char)} (hne : pieces ≠ [])
    (hcomma : ∀ piece ∈ pieces, ',' ∉ piece) (hfilled : ∀ piece ∈ pieces, Text.trimBlanks piece ≠ []) :
    ¬ (Text.trimBlanks ([','].intercalate pieces)).isEmpty = true := by
  intro hbody
  have hall := Text.isEmpty_trimBlanks_iff.1 hbody
  have hone : Text.pieces ',' ([','].intercalate pieces) = [[','].intercalate pieces] :=
    Text.pieces_of_not_mem fun hmem => absurd (hall _ hmem) (by decide)
  have hmem : [','].intercalate pieces ∈ pieces := by
    have hself := List.mem_singleton.2 (Eq.refl ([','].intercalate pieces))
    rwa [← hone, Text.pieces_intercalate hne hcomma] at hself
  exact hfilled _ hmem (List.isEmpty_iff.1 hbody)

theorem areWritten_of_parse (h : parse body = .ok patterns) : AreWritten body patterns := by
  rw [parse] at h
  split at h
  · next hbody =>
      cases h
      exact .none (Text.isEmpty_trimBlanks_iff.1 hbody)
  · dsimp only at h
    split at h
    · cases h
    · next hnone =>
        split at h
        · cases h
        · next hone =>
            cases h
            have helements := forall₂_isWritten_iff.2
              ⟨fun piece hpiece htrim => hnone (contains_empty_iff.2 ⟨piece, hpiece, htrim⟩), rfl⟩
            have hwritten := AreWritten.some (Text.pieces_ne_nil _ _)
              (fun _ => Text.not_mem_of_mem_pieces) helements (Nat.not_lt.1 hone)
            rwa [Text.intercalate_pieces] at hwritten

theorem parse_of_areWritten (h : AreWritten body patterns) : parse body = .ok patterns := by
  rw [parse]
  cases h with
  | none h => rw [if_pos (Text.isEmpty_trimBlanks_iff.2 h)]
  | @some pieces patterns hne hcomma helements hone =>
      obtain ⟨hfilled, hpatterns⟩ := forall₂_isWritten_iff.1 helements
      have hpieces := Text.pieces_intercalate hne hcomma
      have hlist : ofList ([','].intercalate pieces) = patterns := by rw [ofList, hpieces, hpatterns]
      have hnone : ¬ (ofList ([','].intercalate pieces)).contains (named ⟨""⟩) = true := by
        rw [contains_empty_iff, hpieces]
        rintro ⟨piece, hpiece, htrim⟩
        exact hfilled piece hpiece htrim
      rw [if_neg (trimBlanks_intercalate_ne_nil hne hcomma hfilled)]
      dsimp only
      rw [if_neg hnone, hlist, if_neg (Nat.not_lt.2 hone)]

theorem parse_eq_ok_iff : parse body = .ok patterns ↔ AreWritten body patterns :=
  ⟨areWritten_of_parse, parse_of_areWritten⟩

end ArgPattern

namespace ExecutionPattern

/-- The words before the name of the method, and the type of the result that they ask for: the last
one that is no modifier, or any type. -/
inductive AsksFor : List (List Char) → NamePattern → Prop
  | any {words : List (List Char)} (h : ∀ word ∈ words, String.ofList word ∈ modifiers) : AsksFor words ⟨"*"⟩
  | type {word : List Char} {behind : List (List Char)} (before : List (List Char))
      (hword : String.ofList word ∉ modifiers) (h : ∀ modifier ∈ behind, String.ofList modifier ∈ modifiers) :
      AsksFor (before ++ word :: behind) ⟨String.ofList word⟩

/-- The name of a method, which the simple name of an owner may precede. An owner of any name is none. -/
inductive Names : List Char → Option NamePattern → NamePattern → Prop
  | simple {method : List Char} (hdot : '.' ∉ method) (hne : method ≠ []) :
      Names method none ⟨String.ofList method⟩
  | anywhere {method front : List Char} (howner : Text.IsLastSegment front ['*']) (hdot : '.' ∉ method)
      (hne : method ≠ []) : Names (front ++ '.' :: method) none ⟨String.ofList method⟩
  | owned {method front owner : List Char} (howner : Text.IsLastSegment front owner) (hsome : owner ≠ ['*'])
      (hdot : '.' ∉ method) (hne : method ≠ []) :
      Names (front ++ '.' :: method) (some ⟨String.ofList owner⟩) ⟨String.ofList method⟩

/-- The text of an execution pattern: words, the last of which names the method, and the parameters in
parentheses. -/
inductive IsWritten : String → ExecutionPattern → Prop
  | mk {body : String} {head name parameters : List Char} {before : List (List Char)} {returns : NamePattern}
      {owner : Option NamePattern} {method : NamePattern} {patterns : List ArgPattern}
      (hbody : body.toList = head ++ '(' :: parameters ++ [')']) (hhead : '(' ∉ head)
      (hwords : Text.AreWords head (before ++ [name])) (hreturns : AsksFor before returns)
      (hname : Names name owner method) (hparameters : ArgPattern.AreWritten parameters patterns) :
      IsWritten body ⟨body, returns, owner, method, patterns⟩

variable {words before : List (List Char)} {name front segment : List Char} {returns method : NamePattern}
  {owner : Option NamePattern}

theorem asksFor_iff : AsksFor words returns ↔
    ⟨((words.map String.ofList).reverse.find? fun w => !modifiers.contains w).getD "*"⟩ = returns := by
  have hnone : ∀ ws : List (List Char), (∀ word ∈ ws, String.ofList word ∈ modifiers) →
      (ws.map String.ofList).reverse.find? (fun w => !modifiers.contains w) = none := by
    intro ws h
    simpa [List.find?_eq_none] using h
  constructor
  · intro h
    cases h with
    | any h => rw [hnone _ h, Option.getD_none]
    | @type word behind before hword h =>
        have hlast : (!modifiers.contains (String.ofList word)) = true := by simpa using hword
        rw [List.map_append, List.map_cons, List.reverse_append, List.reverse_cons, List.append_assoc,
          List.find?_append, hnone _ h, Option.none_or, List.singleton_append,
          List.find?_cons_of_pos (p := fun w => !modifiers.contains w) hlast, Option.getD_some]
  · rintro rfl
    rw [← List.map_reverse]
    cases hfind : (words.reverse.map String.ofList).find? fun w => !modifiers.contains w with
    | none => exact .any (by simpa [List.find?_eq_none] using hfind)
    | some found =>
        obtain ⟨hfound, passed, rest, hsplit, hpassed⟩ := List.find?_eq_some_iff_append.1 hfind
        obtain ⟨behind, others, hwords, rfl, hothers⟩ := List.map_eq_append_iff.1 hsplit
        obtain ⟨word, before, rfl, rfl, rfl⟩ := List.map_eq_cons_iff.1 hothers
        have hlist : words = before.reverse ++ word :: behind.reverse := by
          rw [← List.reverse_reverse words, hwords]
          simp
        rw [hlist]
        exact .type before.reverse (by simpa using hfound) (by simpa using hpassed)

theorem splitOwner_of_not_mem (h : '.' ∉ name) :
    splitOwner (String.ofList name) = (none, String.ofList name) := by
  rw [splitOwner, String.toList_ofList, Text.splitLast_eq_none_iff.2 h]

theorem splitOwner_append (h : '.' ∉ segment) : splitOwner (String.ofList (front ++ '.' :: segment)) =
    (some ⟨String.ofList (Text.afterLast (· == '.') front)⟩, String.ofList segment) := by
  rw [splitOwner, String.toList_ofList, Text.splitLast_append h]
  simp only [Text.lastSegment, String.toList_ofList]

theorem names_iff : Names name owner method ↔ (splitOwner (String.ofList name)).2 ≠ "" ∧
    (splitOwner (String.ofList name)).1.filter (fun p => !p.isWildcard) = owner ∧
    ⟨(splitOwner (String.ofList name)).2⟩ = method := by
  have hempty : ∀ {s : List Char}, String.ofList s ≠ "" ↔ s ≠ [] := by
    intro s
    exact not_congr (@String.ofList_inj s [])
  have hwild : ∀ {s : List Char}, (NamePattern.mk (String.ofList s)).isWildcard = true ↔ s = ['*'] := by
    intro s
    rw [NamePattern.isWildcard, beq_iff_eq]
    exact @String.ofList_inj s ['*']
  constructor
  · intro h
    cases h with
    | simple hdot hne =>
        rw [splitOwner_of_not_mem hdot]
        exact ⟨hempty.2 hne, rfl, rfl⟩
    | anywhere howner hdot hne =>
        rw [splitOwner_append hdot, Text.isLastSegment_iff.1 howner]
        exact ⟨hempty.2 hne, rfl, rfl⟩
    | owned howner hsome hdot hne =>
        rw [splitOwner_append hdot, Text.isLastSegment_iff.1 howner]
        refine ⟨hempty.2 hne, ?_, rfl⟩
        rw [Option.filter_some, if_pos]
        simpa using mt hwild.1 hsome
  · rintro ⟨hne, rfl, rfl⟩
    by_cases hdot : '.' ∈ name
    · obtain ⟨front, segment, rfl, hsegment⟩ := Text.exists_last hdot
      rw [splitOwner_append hsegment] at hne ⊢
      have howner := Text.isLastSegment_iff.2 (Eq.refl (Text.afterLast (· == '.') front))
      rw [Option.filter_some]
      by_cases hstar : Text.afterLast (· == '.') front = ['*']
      · rw [if_neg (by simpa using hwild.2 hstar)]
        rw [hstar] at howner
        exact .anywhere howner hsegment (hempty.1 hne)
      · rw [if_pos (by simpa using mt hwild.1 hstar)]
        exact .owned howner hstar hsegment (hempty.1 hne)
    · rw [splitOwner_of_not_mem hdot] at hne ⊢
      exact .simple hdot (hempty.1 hne)

theorem splitHead_concat : splitHead ((before ++ [name]).map String.ofList) =
    some (⟨((before.map String.ofList).reverse.find? fun w => !modifiers.contains w).getD "*"⟩,
      String.ofList name) := by
  rw [List.map_append, List.map_singleton, splitHead, List.reverse_append, List.reverse_singleton]
  rfl

theorem parse_eq_ok_iff {body : String} {p : ExecutionPattern} : parse body = .ok p ↔ IsWritten body p := by
  constructor
  · intro h
    rw [parse] at h
    split at h
    · next head tail hsplit =>
        obtain ⟨hbody, hhead⟩ := Text.splitFirst_eq_some_iff.1 hsplit
        simp only [bind, Except.bind] at h
        split at h
        · cases h
        · next hlast =>
            have htail := List.dropLast_append_getLast? _ (Option.mem_def.2 (not_not.1 hlast))
            split at h
            · cases h
            · next patterns hparameters =>
                obtain hnil | ⟨before, name, hwords⟩ := List.eq_nil_or_concat' (Text.words head)
                · rw [hnil] at h
                  cases h
                · rw [hwords, splitHead_concat] at h
                  simp only at h
                  split at h
                  · cases h
                  · next hmethod =>
                      cases h
                      rw [← htail, ← List.cons_append, ← List.append_assoc] at hbody
                      refine .mk hbody hhead (Text.areWords_iff.2 hwords) (asksFor_iff.2 rfl) ?_
                        (ArgPattern.parse_eq_ok_iff.1 hparameters)
                      exact names_iff.2 ⟨by simpa using hmethod, rfl, rfl⟩
    · cases h
  · intro h
    cases h with
    | @mk head name parameters before returns owner method patterns hbody hhead hwords hreturns hname hparameters =>
        have hsplit : Text.splitFirst '(' body.toList = some (head, parameters ++ [')']) := by
          rw [hbody, List.append_assoc]
          exact Text.splitFirst_append hhead _
        obtain ⟨hne, rfl, rfl⟩ := names_iff.1 hname
        obtain rfl := asksFor_iff.1 hreturns
        have hmethod : (splitOwner (String.ofList name)).2.isEmpty = false := by simpa using hne
        simp only [parse, hsplit, List.getLast?_concat, List.dropLast_concat,
          ArgPattern.parse_eq_ok_iff.2 hparameters, Text.areWords_iff.1 hwords, splitHead_concat, bind, Except.bind,
          hmethod]
        rfl

end ExecutionPattern

namespace Expr

/-- A call of one of the three designators with a valid body, and the tree that it stands for. -/
inductive IsCall : String → String → Expr → Prop
  | execution {body : String} {pattern : ExecutionPattern} (h : pattern.IsWritten body) :
      IsCall "execution" body (.execution pattern)
  | within {body : String} {name : List Char} (hne : body ≠ "") (h : Text.IsLastSegment body.toList name) :
      IsCall "within" body (.within ⟨String.ofList name⟩)
  | args {body : String} {patterns : List ArgPattern} (h : ArgPattern.AreWritten body.toList patterns) :
      IsCall "args" body (.args body patterns)

theorem isCall_iff {name body : String} {e : Expr} : IsCall name body e ↔ designator? name body = some (.ok e) := by
  constructor
  · intro h
    cases h with
    | execution h => simp only [designator?, ExecutionPattern.parse_eq_ok_iff.2 h, Except.map_ok]
    | within hne h =>
        simp only [designator?]
        rw [if_neg (by simpa using hne), Text.lastSegment, Text.isLastSegment_iff.1 h]
    | args h => simp only [designator?, ArgPattern.parse_eq_ok_iff.2 h, Except.map_ok]
  · intro h
    unfold designator? at h
    split at h
    · cases hparse : ExecutionPattern.parse body with
      | error err => rw [hparse] at h; cases h
      | ok pattern =>
          rw [hparse] at h
          cases h
          exact .execution (ExecutionPattern.parse_eq_ok_iff.1 hparse)
    · split at h
      · cases h
      · next hne =>
          cases h
          exact .within (by simpa using hne) (Text.isLastSegment_iff.2 rfl)
    · cases hparse : ArgPattern.parse body.toList with
      | error err => rw [hparse] at h; cases h
      | ok patterns =>
          rw [hparse] at h
          cases h
          exact .args (ArgPattern.parse_eq_ok_iff.1 hparse)
    · cases h

end Expr

end Weaving
