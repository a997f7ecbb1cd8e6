/-
# Filters in their own language

A filter is printed in the language of filters: keywords in lowercase, the names of its
fields and the SQL texts of its values as they stand, and parentheses exactly where it
has groups. What was read from a text is read again from its print. No filter needs
parentheses that it does not have, and neither names nor values change when they are
read a second time.

The text of a filter is put together from the texts of its parts. With each part goes
what the grammar makes of its tokens, whatever follows them.
-/

import WhereClause.Proofs.Draft.Shape
import WhereClause.Proofs.Source.Leaves

namespace WhereClause

open Grammar

/-- The text of a filter in the language of filters. -/
def Filter.source : Filter → String
  | .condition field comparison value =>
    field.name ++ " " ++ comparison.keyword ++ " " ++ value.sql
  | .oneOf field values => field.name ++ " in (" ++ listText values ++ ")"
  | .binary joint left right => left.source ++ " " ++ joint.keyword ++ " " ++ right.source
  | .negation operand => "not " ++ operand.source
  | .group inner => "(" ++ inner.source ++ ")"

namespace Token

variable (reserved : ReservedWords)

@[simp]
theorem symbol_opening : (bare .opening).symbol reserved = .opening :=
  rfl

@[simp]
theorem symbol_closing : (bare .closing).symbol reserved = .closing :=
  rfl

@[simp]
theorem symbol_comma : (bare .comma).symbol reserved = .comma :=
  rfl

@[simp]
theorem symbol_membership : (bare .membership).symbol reserved = .membership :=
  rfl

@[simp]
theorem symbol_negation : (bare .negation).symbol reserved = .negation :=
  rfl

@[simp]
theorem symbol_connective (joint : Connective) :
    (bare (.connective joint)).symbol reserved = .connective joint :=
  rfl

@[simp]
theorem symbol_comparison (sign : Comparison) :
    (bare (.comparison sign)).symbol reserved = .comparison sign :=
  rfl

/-- Tokens that are alike are the same symbol. -/
theorem Alike.symbol_eq {token other : Token} (alike : token.Alike other) :
    token.symbol reserved = other.symbol reserved := by
  obtain ⟨kind, text⟩ := alike
  cases isKind : token.kind with
  | identifier | string | number =>
      simp only [symbol, ← kind, text (by rw [isKind]; rfl)]
  | opening | closing | comma | membership | negation | connective | comparison =>
      simp only [symbol, ← kind, isKind]

end Token

/-! ### Texts and the parts of expressions -/

/-- The text is this part of an expression and amounts to the tree: its tokens do, whatever
comes after them. -/
structure States (reserved : ReservedWords) (text : String) (part : Part) (tree : Filter) :
    Prop where
  edged : Text.Edged text.toList
  tokens : ∃ tokens, Lexer.Yields text.toList tokens ∧
    ∀ rest, Derives part (tokens.map (Token.symbol reserved) ++ rest) tree rest

namespace States

variable {reserved : ReservedWords} {text text' : String} {tree tree' : Filter}

/-- A comparison of a field with a value. -/
theorem condition {field : Field} {value : Literal} (named : field.IsSource reserved)
    (comparison : Comparison) (given : value.IsSource reserved) :
    States reserved (field.name ++ " " ++ comparison.keyword ++ " " ++ value.sql) .primary
      (.condition field comparison value) := by
  have spelled : (field.name ++ " " ++ comparison.keyword ++ " " ++ value.sql).toList =
      field.name.toList ++ ' ' :: (comparison.keyword.toList ++ ' ' :: value.sql.toList) := by simp
  have compares := Lexer.SpellsKeyword.comparison comparison
  have operator := Lexer.Yields.keyword compares
  obtain ⟨token, yields, gives⟩ := given.token
  obtain ⟨asField, isValue⟩ := gives.symbol
  constructor
  · rw [spelled]
    exact named.edged.spaced (.spaced (.of_keyword compares) given.edged)
  · refine ⟨_, spelled ▸ named.yields.spaced (operator.spaced yields), fun rest => ?_⟩
    have derived := Derives.condition field comparison value
      (Literal.ofText reserved field.name).toOption asField rest
    simpa [isValue, named.symbol_eq] using derived

/-- The values of a list, with commas between them. -/
theorem list {values : List Literal} (nonempty : values ≠ [])
    (given : ∀ value ∈ values, value.IsSource reserved) :
    ∃ tokens, Lexer.Yields (Filter.listText values).toList tokens ∧
      ∀ rest, Values (tokens.map (Token.symbol reserved) ++ rest) values rest := by
  induction values with
  | nil => exact absurd rfl nonempty
  | cons first values ih =>
      obtain ⟨token, yields, gives⟩ := (given first List.mem_cons_self).token
      obtain ⟨asField, isValue⟩ := gives.symbol
      cases values with
      | nil =>
          refine ⟨[token], yields, fun rest => ?_⟩
          simpa [isValue] using Values.last asField first rest
      | cons second values =>
          obtain ⟨tokens, more, derives⟩ := ih (List.cons_ne_nil _ _)
            fun value there => given value (List.mem_cons_of_mem _ there)
          refine ⟨[token] ++ .bare .comma :: tokens, ?_, fun rest => ?_⟩
          · have spelled : (Filter.listText (first :: second :: values)).toList =
                first.sql.toList ++ ',' :: ' ' :: (Filter.listText (second :: values)).toList := by
              rw [Filter.listText_cons]
              simp
            rw [spelled]
            exact yields.separated more
          · simpa [isValue] using
              Values.more asField first (derives rest)

/-- A membership test of a field. -/
theorem oneOf {field : Field} {values : List Literal} {word : String}
    (named : field.IsSource reserved) (isIn : Lexer.SpellsKeyword word .membership)
    (nonempty : values ≠ []) (given : ∀ value ∈ values, value.IsSource reserved) :
    States reserved (field.name ++ " " ++ word ++ " (" ++ Filter.listText values ++ ")") .primary
      (.oneOf field values) := by
  have spelled : (field.name ++ " " ++ word ++ " (" ++ Filter.listText values ++ ")").toList =
      field.name.toList ++ ' ' :: (word.toList ++
        ' ' :: ('(' :: (Filter.listText values).toList ++ [')'])) := by simp
  have keyword := Lexer.Yields.keyword isIn
  obtain ⟨tokens, yields, derives⟩ := list nonempty given
  constructor
  · rw [spelled]
    exact named.edged.spaced (.spaced (.of_keyword isIn) (.enclosed _))
  · refine ⟨_, spelled ▸ named.yields.spaced (keyword.spaced yields.enclosed), fun rest => ?_⟩
    have derived := Derives.oneOf field (Literal.ofText reserved field.name).toOption
      (derives (.closing :: rest))
    simpa [named.symbol_eq] using derived

/-- An expression between parentheses. -/
theorem group (inner : States reserved text (.chain .or) tree) :
    States reserved ("(" ++ text ++ ")") .primary (.group tree) := by
  obtain ⟨tokens, yields, derives⟩ := inner.tokens
  have spelled : ("(" ++ text ++ ")").toList = '(' :: text.toList ++ [')'] := by simp
  constructor
  · rw [spelled]
    exact .enclosed _
  · refine ⟨_, spelled ▸ yields.enclosed, fun rest => ?_⟩
    have derived := Derives.group (derives (.closing :: rest))
    simpa using derived

/-- A primary is an operand. -/
theorem operand (primary : States reserved text .primary tree) :
    States reserved text .operand tree := by
  obtain ⟨tokens, yields, derives⟩ := primary.tokens
  exact ⟨primary.edged, tokens, yields, fun rest => .primary (derives rest)⟩

/-- An operand with a negation in front of it. -/
theorem negation {word : String} (isNot : Lexer.SpellsKeyword word .negation)
    (operand : States reserved text .operand tree) :
    States reserved (word ++ " " ++ text) .operand (.negation tree) := by
  obtain ⟨tokens, yields, derives⟩ := operand.tokens
  have spelled : (word ++ " " ++ text).toList = word.toList ++ ' ' :: text.toList := by simp
  have keyword := Lexer.Yields.keyword isNot
  constructor
  · rw [spelled]
    exact .spaced (.of_keyword isNot) operand.edged
  · refine ⟨_, spelled ▸ keyword.spaced yields, fun rest => ?_⟩
    have derived := Derives.negation (derives rest)
    simpa using derived

/-- A chain of one operand. -/
theorem first {joint : Connective} (operand : States reserved text (Part.joinedBy joint) tree) :
    States reserved text (.chain joint) tree := by
  obtain ⟨tokens, yields, derives⟩ := operand.tokens
  exact ⟨operand.edged, tokens, yields, fun rest => .chain (derives rest) (.done _ _ _)⟩

/-- A chain with one operand more. -/
theorem join {joint : Connective} {word : String}
    (joins : Lexer.SpellsKeyword word (.connective joint))
    (left : States reserved text (.chain joint) tree)
    (right : States reserved text' (Part.joinedBy joint) tree') :
    States reserved (text ++ " " ++ word ++ " " ++ text') (.chain joint)
      (.binary joint tree tree') := by
  obtain ⟨tokens, yields, derives⟩ := left.tokens
  obtain ⟨tokens', yields', derives'⟩ := right.tokens
  have spelled : (text ++ " " ++ word ++ " " ++ text').toList =
      text.toList ++ ' ' :: (word.toList ++ ' ' :: text'.toList) := by simp
  have keyword := Lexer.Yields.keyword joins
  constructor
  · rw [spelled]
    exact left.edged.spaced (.spaced (.of_keyword joins) right.edged)
  · refine ⟨_, spelled ▸ yields.spaced (keyword.spaced yields'), fun rest => ?_⟩
    have derived := (derives _).chain_concat (derives' rest)
    simpa using derived

end States

namespace Filter

variable {reserved : ReservedWords} {part : Part} {filter : Filter}

/-- Negations have no leaves. -/
theorem leaves_negated_iff {names : Field → Prop} {gives : Literal → Prop} (count : Nat) :
    (filter.negated count).Leaves names gives ↔ filter.Leaves names gives := by
  induction count generalizing filter with
  | zero => rfl
  | succ count ih => exact ih

/-- The print of an operand with any number of negations in front of it. -/
theorem states_source_negated (count : Nat)
    (stated : States reserved filter.source .operand filter) :
    States reserved (filter.negated count).source .operand (filter.negated count) := by
  have isNot : Lexer.SpellsKeyword "not" .negation := ⟨Text.forall_mem_of_all rfl, rfl⟩
  induction count generalizing filter with
  | zero => exact stated
  | succ count ih =>
      apply ih
      exact stated.negation isNot

/-- What is a part of an expression as it stands is printed as this part. -/
theorem Shaped.states_source (shaped : Shaped part filter)
    (leaves : filter.Leaves (Field.IsSource reserved) (Literal.IsSource reserved)) :
    States reserved filter.source part filter := by
  induction shaped with
  | condition field comparison value => exact .condition leaves.1 comparison leaves.2
  | oneOf field values =>
      have isIn : Lexer.SpellsKeyword "in" .membership :=
        ⟨Text.forall_mem_of_all rfl, rfl⟩
      have stated := States.oneOf leaves.1 isIn leaves.2.1 leaves.2.2
      have spelled : (Filter.oneOf field values).source =
          field.name ++ " " ++ "in" ++ " (" ++ listText values ++ ")" := by
        rw [Filter.source, ← String.toList_inj]
        simp
      rwa [spelled]
  | group _ ih => exact (ih leaves).group
  | operand count _ _ ih =>
      exact states_source_negated count (ih ((leaves_negated_iff count).mp leaves)).operand
  | first _ ih => exact (ih leaves).first
  | @join joint _ _ _ _ ihLeft ihRight =>
      exact .join (.connective joint) (ihLeft leaves.1) (ihRight leaves.2)

end Filter

namespace Translator

variable {translator : Translator} {text : String} {filter : Filter}

/-- A text that states a tree is read as the tree, if the limit admits its groups and the
counter its negations. -/
theorem parse_of_states (unlimited : translator.lengthLimit = none)
    (stated : States translator.reserved text (.chain .or) filter)
    (few : filter.negationRun < 2 ^ 31)
    (room : filter.groupDepth ≤ translator.nestingLimit.toNat) :
    translator.parse text = .ok (some filter) := by
  obtain ⟨tokens, yields, derives⟩ := stated.tokens
  obtain ⟨placed, alike, parsed⟩ :=
    parse_of_yields stated.edged (exceededLimit?_of_unlimited unlimited _) yields
  have same : tokens.map (Token.symbol translator.reserved) =
      placed.map (Token.symbol translator.reserved) := by
    rw [← List.forall₂_eq_eq_eq, List.forall₂_map_left_iff, List.forall₂_map_right_iff]
    exact alike.imp fun _ _ likewise => likewise.symbol_eq _
  have derived := derives []
  rw [List.append_nil, same] at derived
  have ran := Filter.Draft.run_of_negationRun
    ⟨translator.reserved, translator.nestingLimit.toNat, 0⟩ derived few room
  have read : Filter.ofTokens translator.reserved translator.nestingLimit.toNat placed =
      .ok filter := congrArg Prod.fst ran
  rw [parsed, read]
  rfl

/-- Every filter that is read from a text is read again from its print, under all settings
without a length limit that reserve no word with a quote in it. -/
theorem parse_source {settings : Settings} (unlimited : settings.lengthLimit = none)
    (free : ∀ word ∈ settings.reservedWords, '\'' ∉ word.toList)
    (parsed : (ofSettings settings).parse text = .ok (some filter)) :
    (ofSettings settings).parse filter.source = .ok (some filter) := by
  obtain ⟨tokens, -, read⟩ := ofTokens_of_parse parsed
  have shaped := Filter.shaped_of_parse read
  have leaves := isSource_leaves_of_parse (ReservedWords.not_mem_quote_of_ofList free) parsed
  exact parse_of_states unlimited (shaped.states_source leaves) shaped.negationRun_lt
    (Filter.groupDepth_le_of_parse read)

/-- The print has its own spelling of keywords, names and values. -/
theorem parse_source_membership :
    let settings : Settings := { Settings.standard with reservedWords := ["Secret"] }
    settings.lengthLimit = none ∧ (∀ word ∈ settings.reservedWords, '\'' ∉ word.toList) ∧
      ∃ filter,
        (ofSettings settings).parse "userName EQ bob OR not Age IN (30,NULL)" =
          .ok (some filter) ∧
        filter.source = "user_name eq 'bob' or not age in (30, null)" ∧
        (ofSettings settings).parse filter.source = .ok (some filter) := by
  intro settings
  have free : ∀ word ∈ settings.reservedWords, '\'' ∉ word.toList := by decide
  have blank : Text.isBlank ' ' = true := rfl
  have opening : Lexer.Spells .opening ['('] ['('] "30,NULL)".toList := .punctuation _ rfl
  have number : Lexer.Spells (Lexer.wordKind "30") "30".toList "30".toList ",NULL)".toList :=
    .word (by decide) (Text.forall_mem_of_all rfl) (Lexer.stops_cons rfl _)
  have comma : Lexer.Spells .comma [','] [','] "NULL)".toList := .punctuation _ rfl
  have null : Lexer.Spells (Lexer.wordKind "NULL") "NULL".toList "NULL".toList ")".toList :=
    .word (by decide) (Text.forall_mem_of_all rfl) (Lexer.stops_cons rfl _)
  have closing : Lexer.Spells .closing [')'] [')'] [] := .punctuation _ rfl
  have cuts : Lexer.Cuts [] 0 "userName EQ bob OR not Age IN (30,NULL)".toList _ :=
    .spaced "userName" (by decide) rfl blank <| .spaced "EQ" (by decide) rfl blank <|
      .spaced "bob" (by decide) rfl blank <| .spaced "OR" (by decide) rfl blank <|
      .spaced "not" (by decide) rfl blank <| .spaced "Age" (by decide) rfl blank <|
      .spaced "IN" (by decide) rfl blank <| .spelled opening <| .spelled number <|
      .spelled comma <| .spelled null <| .spelled closing (.done _)
  have parsed : (ofSettings settings).parse "userName EQ bob OR not Age IN (30,NULL)" =
      .ok (some (.binary .or (.condition ⟨"user_name"⟩ .equal ⟨"'bob'"⟩)
        (.negation (.oneOf ⟨"age"⟩ [⟨"30"⟩, ⟨"null"⟩])))) :=
    parse_of_cuts rfl (by decide) rfl cuts rfl
  exact ⟨rfl, free, _, parsed, rfl, parse_source rfl free parsed⟩

end Translator

end WhereClause
