/-
# Values reach SQL unaltered

From the text of a filter to its SQL a value passes two escapes: the lexer reads
pairs of quotes as quotes, and the literal has every quote doubled again. The value
is the same before and after, whatever is in it, and so is the order of the values.

In the other direction, every text can be sent through as a quoted string, unless it
holds one of the sequences that are refused.
-/

import WhereClause.Proofs.Draft.Values
import WhereClause.Proofs.Literal.Carries
import WhereClause.Proofs.Translator

namespace WhereClause

/-- No quote is part of a word. -/
theorem Lexer.not_mem_of_letters {word : List Char}
    (letters : ∀ c ∈ word, Lexer.isDelimiter c = false) : '\'' ∉ word :=
  fun there => Bool.noConfusion (letters '\'' there)

namespace Translator

/-- The token stands for a slice of the text whose value the literal carries. -/
def Delivers (text : String) (token : Token) (value : Literal) : Prop :=
  ∃ slice, token.span.Covers text.toList slice ∧ value.Carries slice

/-- What a token of a text gives carries the value of the token's slice. -/
theorem delivers_of_gives {reserved : ReservedWords} {text : String} {tokens : List Token}
    {token : Token} {value : Literal} (cut : tokenize text = .ok tokens) (there : token ∈ tokens)
    (gives : Filter.Draft.Gives reserved token value) : Delivers text token value := by
  obtain ⟨slice, after, covers, spells⟩ := Lexer.covers_of_tokenize cut token there
  refine ⟨slice, covers, ?_⟩
  rcases spells.of_isValue gives.1 with ⟨-, body, quoted, rfl⟩ | ⟨-, rfl, letters, -, -⟩
  · exact Literal.carries_string quoted gives.2
  · exact Literal.carries_word (Lexer.not_mem_of_letters letters) gives.2

theorem valueTokens_subset (tokens : List Token) : valueTokens tokens ⊆ tokens := by
  induction tokens with
  | nil => exact List.Subset.refl _
  | cons token rest ih =>
      rw [valueTokens]
      split
      · exact List.cons_subset_cons token ih
      · exact List.subset_cons_of_subset token ih

/-- The values of a translated filter carry those of its text, one each and in order. -/
theorem delivers_of_parse {translator : Translator} {text : String} {filter : Filter}
    (parsed : translator.parse text = .ok (some filter)) :
    ∃ tokens, tokenize (Text.trim text) = .ok tokens ∧
      List.Forall₂ (Delivers (Text.trim text)) (valueTokens tokens) filter.literals := by
  obtain ⟨tokens, cut, read⟩ := ofTokens_of_parse parsed
  refine ⟨tokens, cut, ?_⟩
  have given := Filter.literals_of_parse read
  have both : List.Forall₂
      (fun token value =>
        token ∈ tokens ∧ Filter.Draft.Gives translator.reserved token value)
      (valueTokens tokens) filter.literals :=
    (List.forall₂_and_left _ _).mpr ⟨fun _ there => valueTokens_subset tokens there, given⟩
  exact both.imp fun token value ⟨there, gives⟩ => delivers_of_gives cut there gives

end Translator

/-- Three tokens that make up a comparison are a filter if the last of them gives a
value. -/
theorem Filter.ofTokens_comparison {reserved : ReservedWords} {limit : Nat}
    {comparison : Comparison} {named operator given : Token} {field : Field}
    (isField : named.kind = .identifier) (isOperator : operator.kind = .comparison comparison)
    (isValue : given.kind.isValue = true)
    (name : Field.ofName reserved named.text = .ok field) :
    Filter.ofTokens reserved limit [named, operator, given] =
      match Literal.ofText reserved given.text with
      | .ok value => .ok (.condition field comparison value)
      | .error objection => .error (.invalidValue given.text objection) := by
  have first : Draft.Advances ⟨reserved, limit, 0⟩ Draft.start named
      ⟨[], .empty, .field field⟩ := .nameField _ _ _ isField name
  have second : Draft.Advances ⟨reserved, limit, 0⟩ ⟨[], .empty, .field field⟩ operator
      ⟨[], .empty, .comparison field comparison⟩ := .compare _ _ _ isOperator
  have ran := (first.run_cons [operator, given]).trans (second.run_cons [given])
  refine (congrArg Prod.fst ran).trans ?_
  cases outcome : Literal.ofText reserved given.text with
  | ok value =>
      simp [Draft.run, Draft.step, Draft.stepValue, isValue, outcome, Draft.finish, Chains.close,
        Chains.conjoin, Chains.empty, negated]
  | error objection => simp [Draft.run, Draft.step, Draft.stepValue, isValue, outcome]

namespace Translator

/-- The filter that compares a field with a quoted string. -/
def equality (word value : String) : String :=
  word ++ " eq " ++ String.ofList (Literal.quote value.toList)

section Equality

variable {word : String} {span : Span}
  (lexed : tokenize word = .ok [⟨.identifier, word, span⟩])

include lexed

/-- A word that is cut into one identifier, itself, is made of the characters of words. -/
theorem letters_of_lexed :
    word.toList ≠ [] ∧ (∀ c ∈ word.toList, Lexer.isDelimiter c = false) ∧
      Lexer.wordKind word = .identifier := by
  obtain ⟨slice, after, -, spells⟩ := Lexer.covers_of_tokenize lexed _ List.mem_cons_self
  rcases spells.of_isValue rfl with ⟨isString, -⟩ | ⟨-, rfl, letters, kind, -⟩
  · cases isString
  · rw [String.ofList_toList] at kind
    exact ⟨spells.slice_ne_nil, letters, kind.symm⟩

omit lexed in
/-- The characters of the comparison. -/
theorem toList_equality (value : String) :
    (equality word value).toList =
      word.toList ++ ' ' :: ("eq".toList ++
        ' ' :: ('\'' :: Text.double '\'' value.toList ++ ['\''])) := by
  simp [equality, Literal.quote]

/-- The three tokens of the comparison. -/
theorem tokenize_equality (value : String) :
    ∃ first second third, tokenize (equality word value) =
      .ok [⟨.identifier, word, first⟩, ⟨.comparison .equal, "eq", second⟩,
        ⟨.string, String.ofList ('\'' :: value.toList ++ ['\'']), third⟩] := by
  obtain ⟨nonempty, letters, kind⟩ := letters_of_lexed lexed
  have blank : Text.isBlank ' ' = true := rfl
  have given : Lexer.Spells .string ('\'' :: value.toList ++ ['\''])
      ('\'' :: Text.double '\'' value.toList ++ ['\'']) [] :=
    .string value.toList (by decide)
  have cuts : Lexer.Cuts [] 0 _ _ :=
    .spaced word nonempty (by simpa using letters) blank <| .spaced "eq" (by decide) rfl blank <|
      .spelled given (.done _)
  rw [List.append_nil, kind, ← toList_equality] at cuts
  exact ⟨_, _, _, cuts.tokenize⟩

/-- There is no white space around the comparison. -/
theorem trim_equality (value : String) : Text.trim (equality word value) = equality word value := by
  obtain ⟨nonempty, letters, -⟩ := letters_of_lexed lexed
  apply Text.trim_eq_self
  · intro c first
    obtain ⟨d, rest, begins⟩ := List.exists_cons_of_ne_nil nonempty
    rw [toList_equality, begins] at first
    obtain rfl := Option.some.inj first
    have letter := letters d (by rw [begins]; exact List.mem_cons_self)
    simp only [Lexer.isDelimiter, Bool.or_eq_false_iff] at letter
    exact letter.1.1
  · intro c last
    have shape : (equality word value).toList =
        (word.toList ++ ' ' :: (['e', 'q'] ++ ' ' :: '\'' :: Text.double '\'' value.toList)) ++
          ['\''] := by
      rw [toList_equality]
      simp
    rw [shape, List.getLast?_concat] at last
    obtain rfl := Option.some.inj last
    rfl

/-- The comparison is read as a condition, unless the string holds a forbidden
sequence. -/
theorem read_equality {field : Field} (named : Field.ofName .standard word = .ok field)
    (value : String) :
    standard.read (equality word value) =
      match Literal.forbiddenSequence? value with
      | some sequence =>
        .error (.misread (.invalidValue (String.ofList ('\'' :: value.toList ++ ['\'']))
          (.forbiddenSequence sequence)))
      | none => .ok (.condition field .equal ⟨String.ofList (Literal.quote value.toList)⟩) := by
  obtain ⟨first, second, third, cut⟩ := tokenize_equality lexed value
  have fixed : standard.reserved = .standard := rfl
  have comparison (text : String) :
      Filter.ofTokens .standard standard.nestingLimit.toNat
        [⟨.identifier, word, first⟩, ⟨.comparison .equal, "eq", second⟩,
          ⟨.string, text, third⟩] =
        match Literal.ofText .standard text with
        | .ok value => .ok (.condition field .equal value)
        | .error objection => .error (.invalidValue text objection) :=
    Filter.ofTokens_comparison rfl rfl rfl named
  have free : ∀ reservedWord ∈ ReservedWords.standard.extra, '\'' ∉ reservedWord.toList :=
    List.forall_mem_nil _
  rw [read_of_tokenize rfl cut, fixed, comparison, Literal.ofText_quoted free,
    String.ofList_toList]
  cases Literal.forbiddenSequence? value with
  | some sequence => rfl
  | none => rfl

/-- The comparison is not blank, and there is nothing to trim. -/
theorem parse_equality (value : String) :
    standard.parse (equality word value) =
      match standard.read (equality word value) with
      | .ok tree => .ok (some tree)
      | .error cause => .error { filter := equality word value, cause } := by
  have notEmpty : equality word value ≠ "" := by
    intro empty
    have spelled : (equality word value).toList = _ := toList_equality value
    rw [empty] at spelled
    simp at spelled
  rw [parse, trim_equality lexed]
  cases standard.read (equality word value) with
  | ok tree => simp [notEmpty]
  | error cause => simp [notEmpty]

end Equality

/-- Every value reaches SQL as it was written. The values of a translated filter, from
left to right, carry those of the tokens that stand for values in its text, one each,
under all settings. And with the default ones any string at all can be compared with:
it appears in the SQL text exactly as it is quoted in the filter, or the filter is
refused because the string holds a forbidden sequence. -/
theorem values_reach_sql :
    (∀ (translator : Translator) (text : String) (filter : Filter),
      translator.parse text = .ok (some filter) →
        ∃ tokens, tokenize (Text.trim text) = .ok tokens ∧
          List.Forall₂ (Delivers (Text.trim text)) (valueTokens tokens) filter.literals) ∧
    ∀ (word value : String) (span : Span) (field : Field),
      tokenize word = .ok [⟨.identifier, word, span⟩] →
      Field.ofName .standard word = .ok field →
        ((∀ sequence ∈ [";", "--", "/*", "*/"], ¬ sequence.toList <:+: value.toList) →
          standard.convert (equality word value) =
            .ok (field.name ++ " = " ++ String.ofList (Literal.quote value.toList))) ∧
        ((∃ sequence ∈ [";", "--", "/*", "*/"], sequence.toList <:+: value.toList) →
          ∃ sequence ∈ [";", "--", "/*", "*/"], sequence.toList <:+: value.toList ∧
            standard.convert (equality word value) =
              .error
                { filter := equality word value
                  cause := .misread (.invalidValue (String.ofList ('\'' :: value.toList ++ ['\'']))
                    (.forbiddenSequence sequence)) }) := by
  refine ⟨fun _ _ _ => delivers_of_parse, fun word value span field lexed named => ⟨?_, ?_⟩⟩
  · intro free
    have parsed : standard.parse (equality word value) =
        .ok (some (.condition field .equal ⟨String.ofList (Literal.quote value.toList)⟩)) := by
      have read := read_equality lexed named value
      rw [Literal.forbiddenSequence?_eq_none_iff.mpr free] at read
      rw [parse_equality lexed, read]
    have written : (Filter.condition field .equal
        ⟨String.ofList (Literal.quote value.toList)⟩).sql =
          field.name ++ " = " ++ String.ofList (Literal.quote value.toList) := by
      rw [Filter.sql_eq_textAt, ← String.toList_inj]
      simp [Filter.textAt, Filter.conditionText, Comparison.sql]
    rw [convert, parsed, ← written]
    rfl
  · rintro ⟨held, listed, occurs⟩
    cases forbidden : Literal.forbiddenSequence? value with
    | none => exact absurd occurs (Literal.forbiddenSequence?_eq_none_iff.mp forbidden held listed)
    | some sequence =>
        have found := List.find?_some forbidden
        refine ⟨sequence, List.mem_of_find?_eq_some forbidden,
          (Text.occursIn_iff_infix _ _).mp found, ?_⟩
        have read := read_equality lexed named value
        rw [forbidden] at read
        rw [convert, parse_equality lexed, read]
        rfl

/-- A single word, which names a field. -/
theorem lexed_userName :
    tokenize "userName" = .ok [⟨.identifier, "userName", ⟨0, 8⟩⟩] ∧
      Field.ofName .standard "userName" = .ok ⟨"user_name"⟩ :=
  ⟨Lexer.tokenize_word (by decide) (Text.forall_mem_of_all rfl), rfl⟩

/-- The filter of a comparison with a string that has a quote in it. -/
theorem parse_userName :
    standard.parse (equality "userName" "it's") =
      .ok (some (.condition ⟨"user_name"⟩ .equal ⟨"'it''s'"⟩)) := by
  have free : Literal.forbiddenSequence? "it's" = none := rfl
  rw [parse_equality lexed_userName.1, read_equality lexed_userName.1 lexed_userName.2, free]
  rfl

/-- A string with a quote in it arrives, and one with a semicolon in it does not. -/
theorem values_reach_sql_userName :
    (∃ tokens, tokenize (Text.trim (equality "userName" "it's")) = .ok tokens ∧
      List.Forall₂ (Delivers (Text.trim (equality "userName" "it's"))) (valueTokens tokens)
        [⟨"'it''s'"⟩]) ∧
    standard.convert "userName eq 'it''s'" = .ok "user_name = 'it''s'" ∧
    ∃ sequence ∈ [";", "--", "/*", "*/"],
      standard.convert "userName eq 'a;b'" =
        .error ⟨"userName eq 'a;b'", .misread (.invalidValue "'a;b'"
          (.forbiddenSequence sequence))⟩ := by
  obtain ⟨lexed, named⟩ := lexed_userName
  refine ⟨values_reach_sql.1 _ _ _ parse_userName, ?_, ?_⟩
  · have free : ∀ sequence ∈ [";", "--", "/*", "*/"],
        ¬ sequence.toList <:+: "it's".toList := by decide
    exact (values_reach_sql.2 "userName" "it's" _ _ lexed named).1 free
  · have held : ∃ sequence ∈ [";", "--", "/*", "*/"],
        sequence.toList <:+: "a;b".toList := by decide
    obtain ⟨sequence, listed, -, refused⟩ :=
      (values_reach_sql.2 "userName" "a;b" _ _ lexed named).2 held
    exact ⟨sequence, listed, refused⟩

end Translator

end WhereClause
