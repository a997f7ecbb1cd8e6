/-
# Filters compose

Texts that are filters on their own can be put together: between parentheses, behind a
negation, and on both sides of a connective. Whatever stands in them, each is read as it
was read alone, and its SQL text is written as it was written alone. A string is closed
inside of its own text, a parenthesis too, and what a chain would take from its
neighbours the parentheses keep apart.

The one thing that can go wrong is depth: a filter whose own groups use up the limit has
no room for one pair of parentheses more. It is then refused for its depth and for
nothing else, whichever side of a connective it stands on.
-/

import WhereClause.Proofs.Draft.Nesting
import WhereClause.Proofs.Filter.Rendering
import WhereClause.Proofs.Translator

namespace WhereClause

namespace Filter

/-! ### Groups under one operator -/

section Tokens

variable {reserved : ReservedWords} {limit : Nat} {inner other : Filter}
  {first second : List Token} {token : Token}

/-- Where nothing is open, there is room for a group if its filter does not use up the
limit. -/
theorem Draft.MakesGroup.outside (made : MakesGroup ⟨reserved, limit, 0⟩ inner first)
    (chains : Chains) (lead : Option Lead) (rest : List Token) :
    (inner.groupDepth < limit →
      run ⟨reserved, limit, 0⟩ ⟨[], chains, .operand lead⟩ (first ++ rest) =
        run ⟨reserved, limit, 0⟩ ⟨[], chains, .complete (.group inner)⟩ rest) ∧
    (limit ≤ inner.groupDepth →
      (run ⟨reserved, limit, 0⟩ ⟨[], chains, .operand lead⟩ (first ++ rest)).1 =
        .error (.nestingTooDeep limit)) := by
  constructor
  · intro room
    apply made.reads
    simp only [List.length_nil]
    omega
  · intro full
    apply made.refuses
    simp only [List.length_nil]
    omega

/-- The tokens of a group, alone. -/
theorem ofTokens_group (made : Draft.MakesGroup ⟨reserved, limit, 0⟩ inner first) :
    (inner.groupDepth < limit → ofTokens reserved limit first = .ok (.group inner)) ∧
    (limit ≤ inner.groupDepth →
      ofTokens reserved limit first = .error (.nestingTooDeep limit)) := by
  obtain ⟨reads, refuses⟩ := made.outside .empty none []
  rw [List.append_nil] at reads refuses
  exact ⟨fun room => congrArg Prod.fst (reads room), refuses⟩

/-- A negation in front of a group. -/
theorem ofTokens_negation_group (negates : token.kind = .negation)
    (made : Draft.MakesGroup ⟨reserved, limit, 0⟩ inner first) :
    (inner.groupDepth < limit →
      ofTokens reserved limit (token :: first) = .ok (.negation (.group inner))) ∧
    (limit ≤ inner.groupDepth →
      ofTokens reserved limit (token :: first) = .error (.nestingTooDeep limit)) := by
  obtain ⟨reads, refuses⟩ := made.outside Chains.empty.negate (some .negation) []
  rw [List.append_nil] at reads refuses
  have negated : Draft.start.run ⟨reserved, limit, 0⟩ (token :: first) = _ :=
    (Draft.Advances.negate [] .empty none negates).run_cons first
  constructor
  · intro room
    exact congrArg Prod.fst (negated.trans (reads room))
  · intro full
    exact (congrArg Prod.fst negated).trans (refuses full)

/-- A connective between two groups. -/
theorem ofTokens_binary_group {joint : Connective} (joins : token.kind = .connective joint)
    (made : Draft.MakesGroup ⟨reserved, limit, 0⟩ inner first)
    (made' : Draft.MakesGroup ⟨reserved, limit, 0⟩ other second) :
    (inner.groupDepth < limit → other.groupDepth < limit →
      ofTokens reserved limit (first ++ token :: second) =
        .ok (.binary joint (.group inner) (.group other))) ∧
    (limit ≤ inner.groupDepth ∨ limit ≤ other.groupDepth →
      ofTokens reserved limit (first ++ token :: second) = .error (.nestingTooDeep limit)) := by
  obtain ⟨reads, refuses⟩ := made.outside .empty none (token :: second)
  obtain ⟨reads', refuses'⟩ := made'.outside (Chains.empty.extend (.group inner) joint)
    (some (.connective joint)) []
  rw [List.append_nil] at reads' refuses'
  have joined := (Draft.Advances.join [] .empty (.group inner) joins
    : Draft.Advances ⟨reserved, limit, 0⟩ _ _ _).run_cons second
  constructor
  · intro room room'
    refine (congrArg Prod.fst ((reads room).trans (joined.trans (reads' room')))).trans ?_
    cases joint <;> rfl
  · intro full
    by_cases room : inner.groupDepth < limit
    · have full' : limit ≤ other.groupDepth := full.resolve_left (Nat.not_le_of_lt room)
      exact (congrArg Prod.fst ((reads room).trans joined)).trans (refuses' full')
    · exact refuses (Nat.le_of_not_lt room)

end Tokens

/-! ### Their SQL text -/

/-- A group is written with parentheses around its filter, which begins anew inside of
them. -/
theorem sql_group (inner : Filter) : (group inner).sql = "(" ++ inner.sql ++ ")" := by
  simp only [sql_eq_textAt, textAt]

theorem sql_negation_group (inner : Filter) :
    (negation (group inner)).sql = "NOT (" ++ inner.sql ++ ")" := by
  have written : (negation (group inner)).sql = "NOT " ++ ("(" ++ inner.sql ++ ")") := by
    simp only [sql_eq_textAt, textAt]
    rfl
  rw [written, ← String.append_assoc, ← String.append_assoc]
  rfl

theorem sql_binary_group (joint : Connective) (inner other : Filter) :
    (binary joint (group inner) (group other)).sql =
      "(" ++ inner.sql ++ ") " ++ joint.sql ++ " (" ++ other.sql ++ ")" := by
  have written : (binary joint (group inner) (group other)).sql =
      "(" ++ inner.sql ++ ")" ++ separator joint ++ ("(" ++ other.sql ++ ")") := by
    simp only [sql_eq_textAt, textAt]
    rfl
  rw [written, separator, ← String.toList_inj]
  simp

end Filter

namespace Translator

variable {translator : Translator} {text first second sql sql' : String}
  {filter other : Filter} {tokens : List Token}

/-- The text is read as the filter, and this is its SQL text. -/
structure Translates (translator : Translator) (text : String) (filter : Filter)
    (sql : String) : Prop where
  parse : translator.parse text = .ok (some filter)
  convert : translator.convert text = .ok sql

/-- The text is refused because its groups lie too deep. -/
def RefusesDepth (translator : Translator) (text : String) : Prop :=
  translator.Refuses text (.nestingTooDeep translator.nestingLimit.toNat)

/-- A filter has one SQL text. -/
theorem Translates.sql_eq (translates : translator.Translates text filter sql) :
    filter.sql = sql := by
  have converted := translates.convert
  rw [convert_of_parse translates.parse] at converted
  exact Except.ok.inj converted

/-- A filter that was read has tokens. -/
theorem Translates.exists_tokens (translates : translator.Translates text filter sql) :
    ∃ tokens, Lexer.Yields text.toList tokens ∧
      Filter.ofTokens translator.reserved translator.nestingLimit.toNat tokens = .ok filter := by
  obtain ⟨tokens, cut, read⟩ := ofTokens_of_parse translates.parse
  exact ⟨tokens, (Lexer.Yields.of_tokenize cut).of_trim, read⟩

/-- What becomes of a text is decided by tokens that are like its own. -/
theorem translates_or_refuses {room full : Prop} (unlimited : translator.lengthLimit = none)
    (edged : Text.Edged text.toList) (yields : Lexer.Yields text.toList tokens)
    (outcome : ∀ placed, List.Forall₂ Token.Alike tokens placed →
      (room → Filter.ofTokens translator.reserved translator.nestingLimit.toNat placed =
        .ok filter) ∧
      (full → Filter.ofTokens translator.reserved translator.nestingLimit.toNat placed =
        .error (.nestingTooDeep translator.nestingLimit.toNat))) :
    (room → translator.Translates text filter filter.sql) ∧
      (full → translator.RefusesDepth text) := by
  obtain ⟨placed, alike, parsed⟩ :=
    parse_of_yields edged (exceededLimit?_of_unlimited unlimited _) yields
  obtain ⟨reads, refuses⟩ := outcome placed alike
  constructor
  · intro fits
    rw [reads fits] at parsed
    exact ⟨parsed, convert_of_parse parsed⟩
  · intro exceeds
    rw [refuses exceeds] at parsed
    exact refuses_of_parse (by rw [edged.trim_eq]; exact parsed)

section Outcomes

variable {tokens' : List Token} (unlimited : translator.lengthLimit = none)
  (yields : Lexer.Yields first.toList tokens) (yields' : Lexer.Yields second.toList tokens')
  (read : Filter.ofTokens translator.reserved translator.nestingLimit.toNat tokens = .ok filter)
  (read' : Filter.ofTokens translator.reserved translator.nestingLimit.toNat tokens' = .ok other)

include unlimited yields read

/-- What becomes of a filter in parentheses. -/
theorem group_outcome :
    (filter.groupDepth < translator.nestingLimit.toNat →
      translator.Translates ("(" ++ first ++ ")") (.group filter) (Filter.group filter).sql) ∧
    (translator.nestingLimit.toNat ≤ filter.groupDepth →
      translator.RefusesDepth ("(" ++ first ++ ")")) := by
  have spelled : ("(" ++ first ++ ")").toList = '(' :: first.toList ++ [')'] := by simp
  refine translates_or_refuses unlimited ?_ (spelled ▸ yields.enclosed) ?_
  · rw [spelled]
    exact .enclosed first.toList
  · intro placed alike
    exact Filter.ofTokens_group (Filter.Draft.makesGroup_of_ofTokens read rfl alike)

/-- What becomes of it behind a negation. -/
theorem negation_group_outcome :
    (filter.groupDepth < translator.nestingLimit.toNat →
      translator.Translates ("not (" ++ first ++ ")") (.negation (.group filter))
        (Filter.negation (.group filter)).sql) ∧
    (translator.nestingLimit.toNat ≤ filter.groupDepth →
      translator.RefusesDepth ("not (" ++ first ++ ")")) := by
  have spelled : ("not (" ++ first ++ ")").toList =
      "not".toList ++ ' ' :: ('(' :: first.toList ++ [')']) := by simp
  have negation : Lexer.SpellsKeyword "not" .negation := ⟨Text.forall_mem_of_all rfl, rfl⟩
  have whole := (Lexer.Yields.keyword negation).spaced yields.enclosed
  refine translates_or_refuses unlimited ?_ (spelled ▸ whole) ?_
  · rw [spelled]
    exact .spaced (.of_keyword negation) (.enclosed first.toList)
  · intro placed alike
    obtain ⟨token, group, same, alikeGroup, rfl⟩ := List.forall₂_cons_left_iff.mp alike
    apply Filter.ofTokens_negation_group (same.kind ▸ rfl)
    exact Filter.Draft.makesGroup_of_ofTokens read rfl alikeGroup

include yields' read'

/-- What becomes of two filters in parentheses with a connective between them. -/
theorem binary_group_outcome (joint : Connective) :
    (filter.groupDepth < translator.nestingLimit.toNat ∧
        other.groupDepth < translator.nestingLimit.toNat →
      translator.Translates ("(" ++ first ++ ") " ++ joint.keyword ++ " (" ++ second ++ ")")
        (.binary joint (.group filter) (.group other))
        (Filter.binary joint (.group filter) (.group other)).sql) ∧
    (translator.nestingLimit.toNat ≤ filter.groupDepth ∨
        translator.nestingLimit.toNat ≤ other.groupDepth →
      translator.RefusesDepth
        ("(" ++ first ++ ") " ++ joint.keyword ++ " (" ++ second ++ ")")) := by
  have spelled : ("(" ++ first ++ ") " ++ joint.keyword ++ " (" ++ second ++ ")").toList =
      ('(' :: first.toList ++ [')']) ++
        ' ' :: (joint.keyword.toList ++ ' ' :: ('(' :: second.toList ++ [')'])) := by simp
  have joins := Lexer.SpellsKeyword.connective joint
  have whole := yields.enclosed.spaced ((Lexer.Yields.keyword joins).spaced yields'.enclosed)
  refine translates_or_refuses unlimited ?_ (spelled ▸ whole) ?_
  · rw [spelled]
    exact .spaced (.enclosed first.toList) (.spaced (.of_keyword joins) (.enclosed second.toList))
  · intro placed alike
    obtain ⟨group, more, alikeGroup, alikeMore, rfl⟩ := Token.alike_append alike
    obtain ⟨token, group', same, alikeGroup', rfl⟩ := List.forall₂_cons_left_iff.mp alikeMore
    obtain ⟨reads, refuses⟩ := Filter.ofTokens_binary_group same.kind.symm
      (Filter.Draft.makesGroup_of_ofTokens read rfl alikeGroup)
      (Filter.Draft.makesGroup_of_ofTokens read' rfl alikeGroup')
    exact ⟨fun ⟨room, room'⟩ => reads room room', refuses⟩

end Outcomes

end Translator

end WhereClause
