/-
# A parser accepts exactly the grammar

A parser builds its filter in one pass and never looks back; the grammar knows
nothing of passes. The two agree: a parser answers with a filter exactly if the
tokens make up an expression that amounts to it and no more groups lie within one
another than the limit admits.

From the parser to the grammar, the tokens read so far spell the draft: the open
groups, the chains of the innermost one and the operand that has been begun each
account for a stretch of the tokens, in this order. From the grammar to the
parser, each part of a derivation takes a draft that waits for it to one that has
it complete. Only here the counter of negations matters, which is a machine word:
a run of 2 ^ 31 of them would not fit.
-/

import Mathlib.Algebra.Group.Nat.Defs
import WhereClause.Proofs.Draft.Induction
import WhereClause.Proofs.Grammar

namespace WhereClause

open Grammar

/-- What a token is to the grammar, under some reserved words. A string or a
number names no field. -/
def Token.symbol (reserved : ReservedWords) (token : Token) : Symbol :=
  match token.kind with
  | .opening => .opening
  | .closing => .closing
  | .comma => .comma
  | .membership => .membership
  | .negation => .negation
  | .connective joint => .connective joint
  | .comparison comparison => .comparison comparison
  | .identifier =>
    .word (Field.ofName reserved token.text).toOption (Literal.ofText reserved token.text).toOption
  | .string | .number => .word none (Literal.ofText reserved token.text).toOption

/-- The kind of the tokens that a symbol stands for, if it is not a word. -/
def Grammar.Symbol.kind? : Symbol → Option TokenKind
  | .opening => some .opening
  | .closing => some .closing
  | .comma => some .comma
  | .membership => some .membership
  | .negation => some .negation
  | .connective joint => some (.connective joint)
  | .comparison sign => some (.comparison sign)
  | .word _ _ => none

namespace Filter

/-- The number of negations in front of a filter. -/
def leadingNegations : Filter → Nat
  | .negation operand => operand.leadingNegations + 1
  | _ => 0

/-- The greatest number of negations in a row. -/
def negationRun : Filter → Nat
  | .condition .. => 0
  | .oneOf .. => 0
  | .binary _ left right => max left.negationRun right.negationRun
  | .negation operand => max operand.negationRun (operand.leadingNegations + 1)
  | .group inner => inner.negationRun

/-- The negations in front of a filter are in a row. -/
theorem leadingNegations_le (filter : Filter) : filter.leadingNegations ≤ filter.negationRun := by
  cases filter with
  | negation => exact Nat.le_max_right _ _
  | condition | oneOf | binary | group => exact Nat.zero_le _

end Filter

namespace Token

variable {reserved : ReservedWords} {token : Token}

/-- A token whose symbol is not a word is of the kind of that symbol. -/
theorem kind_of_symbol {kind : TokenKind} (known : (token.symbol reserved).kind? = some kind) :
    token.kind = kind := by
  unfold symbol at known
  split at known <;> simp_all [Symbol.kind?]

/-- Only an identifier names a field. -/
theorem names_of_symbol {named : Field} {asValue : Option Literal}
    (word : token.symbol reserved = .word (some named) asValue) :
    token.kind = .identifier ∧ Field.ofName reserved token.text = .ok named := by
  unfold symbol at word
  split at word
  case h_8 kind =>
    refine ⟨kind, ?_⟩
    cases read : Field.ofName reserved token.text <;> simp_all [Except.toOption]
  all_goals simp at word

/-- A word gives a value as its symbol has it. -/
theorem gives_of_symbol {asField : Option Field} {value : Literal}
    (word : token.symbol reserved = .word asField (some value)) :
    Filter.Draft.Gives reserved token value := by
  unfold symbol at word
  split at word
  case h_8 kind | h_9 kind | h_10 kind =>
    refine ⟨by simp [kind, TokenKind.isValue], ?_⟩
    cases read : Literal.ofText reserved token.text <;> simp_all [Except.toOption]
  all_goals simp at word

end Token

namespace Grammar

/-- A value more at the end of a list. -/
theorem Values.concat {symbols rest : List Symbol} {values : List Literal}
    {field : Option Field} {value : Literal}
    (list : Values symbols values (.comma :: .word field (some value) :: rest)) :
    Values symbols (values ++ [value]) rest := by
  generalize hend : Symbol.comma :: Symbol.word field (some value) :: rest = ending at list
  induction list with
  | last asField first =>
      subst hend
      exact .more asField first (.last field value rest)
  | more asField first _ ih => exact .more asField first (ih hend)

/-- An operand more at the end of a chain. -/
theorem Derives.links_concat {joint : Connective} {symbols middle rest : List Symbol}
    {first left right : Filter}
    (links : Derives (.links joint first) symbols left (.connective joint :: middle))
    (operand : Derives (Part.joinedBy joint) middle right rest) :
    Derives (.links joint first) symbols (.binary joint left right) rest := by
  generalize hpart : Part.links joint first = part at links
  generalize hend : Symbol.connective joint :: middle = ending at links
  induction links generalizing first with
  | done =>
      cases hpart
      subst hend
      exact .link operand (.done _ _ _)
  | link head _ _ ih =>
      cases hpart
      exact .link head (ih rfl hend)
  | chain | negation | primary | group | condition | oneOf => cases hpart

/-- A chain with one operand more. -/
theorem Derives.chain_concat {joint : Connective} {symbols middle rest : List Symbol}
    {left right : Filter}
    (chain : Derives (.chain joint) symbols left (.connective joint :: middle))
    (operand : Derives (Part.joinedBy joint) middle right rest) :
    Derives (.chain joint) symbols (.binary joint left right) rest := by
  cases chain with
  | chain head links => exact .chain head (links.links_concat operand)

/-- A chain contains its first operands. Whatever is not less in a chain than in its left
side is not less in the chain than in them. -/
theorem Derives.le_of_links {measure : Filter → Nat}
    (grows : ∀ joint left right, measure left ≤ measure (.binary joint left right))
    {joint : Connective} {symbols rest : List Symbol} {left whole : Filter}
    (links : Derives (.links joint left) symbols whole rest) : measure left ≤ measure whole := by
  generalize hpart : Part.links joint left = part at links
  induction links generalizing left with
  | done =>
      cases hpart
      exact Nat.le_refl _
  | link _ _ _ ih =>
      cases hpart
      exact Nat.le_trans (grows _ _ _) (ih rfl)
  | chain | negation | primary | group | condition | oneOf => cases hpart

/-- A chain has the groups of its first operands. -/
theorem Derives.groupDepth_le {joint : Connective} {symbols rest : List Symbol}
    {left whole : Filter} (links : Derives (.links joint left) symbols whole rest) :
    left.groupDepth ≤ whole.groupDepth :=
  links.le_of_links fun _ _ _ => Nat.le_max_left _ _

/-- A chain has the negations of its first operands. -/
theorem Derives.negationRun_le_of_links {joint : Connective} {symbols rest : List Symbol}
    {left whole : Filter} (links : Derives (.links joint left) symbols whole rest) :
    left.negationRun ≤ whole.negationRun :=
  links.le_of_links fun _ _ _ => Nat.le_max_left _ _

/-- The negations in a row that a part begins with. -/
def Part.negationRun : Part → Nat
  | .links _ left => left.negationRun
  | _ => 0

theorem Part.negationRun_joinedBy (joint : Connective) : (joinedBy joint).negationRun = 0 := by
  cases joint <;> rfl

/-- There are no more negations in a row than symbols. -/
theorem Derives.negationRun_le {part : Part} {symbols rest : List Symbol} {filter : Filter}
    (derived : Derives part symbols filter rest) :
    filter.negationRun ≤ max part.negationRun symbols.length := by
  induction derived with
  | chain head _ ihHead ihTail =>
      have shorter := head.suffix.length_le
      rw [Part.negationRun_joinedBy] at ihHead
      simp only [Part.negationRun] at ihTail ⊢
      omega
  | done => exact Nat.le_max_left _ _
  | link head _ ihHead ihTail =>
      have shorter := head.suffix.length_le
      rw [Part.negationRun_joinedBy] at ihHead
      simp only [Part.negationRun, Filter.negationRun, List.length_cons] at ihTail ⊢
      omega
  | @negation _ _ operand _ ih =>
      have leading := operand.leadingNegations_le
      simp only [Part.negationRun, Filter.negationRun, List.length_cons] at ih ⊢
      omega
  | primary _ ih => exact ih
  | group _ ih =>
      simp only [Part.negationRun, Filter.negationRun, List.length_cons] at ih ⊢
      omega
  | condition | oneOf => exact Nat.zero_le _

/-- Negations in front of an operand negate it as often. -/
theorem Derives.negated {symbols rest : List Symbol} {operand : Filter}
    (derived : Derives .operand symbols operand rest) (count : Nat) :
    Derives .operand (List.replicate count .negation ++ symbols) (operand.negated count) rest := by
  induction count generalizing symbols operand with
  | zero => exact derived
  | succ count ih =>
      have inner := ih derived.negation
      simpa [List.replicate_succ', Filter.negated] using inner

end Grammar

namespace Filter

/-! ### From the parser to the grammar -/

/-- The symbols are a chain up to a connective that joins it to what comes next;
there are none if the chain is empty. -/
def Leads (joint : Connective) : Option Filter → List Symbol → Prop
  | none, symbols => symbols = []
  | some left, symbols =>
    ∀ rest, Derives (.chain joint) (symbols ++ rest) left (.connective joint :: rest)

/-- The symbols account for the chains in front of an operand. -/
def Chains.Spells (chains : Chains) (symbols : List Symbol) : Prop :=
  ∃ disjuncts conjuncts count,
    symbols = disjuncts ++ conjuncts ++ List.replicate count .negation ∧
    Leads .or chains.alternatives disjuncts ∧ Leads .and chains.conjunction conjuncts ∧
    chains.negations = Int32.ofNat count

/-- The symbols account for what has been read of an operand. -/
def Phase.Spells : Phase → List Symbol → Prop
  | .operand _, symbols => symbols = []
  | .field named, symbols => ∃ asValue, symbols = [.word (some named) asValue]
  | .comparison named sign, symbols =>
    ∃ asValue, symbols = [.word (some named) asValue, .comparison sign]
  | .membership named, symbols => ∃ asValue, symbols = [.word (some named) asValue, .membership]
  | .listStart named, symbols =>
    ∃ asValue, symbols = [.word (some named) asValue, .membership, .opening]
  | .listValue named values, symbols =>
    ∃ asValue list, symbols = .word (some named) asValue :: .membership :: .opening :: list ∧
      ∀ rest, Values (list ++ rest) values.reverse rest
  | .listComma named values, symbols =>
    ∃ asValue list, symbols = .word (some named) asValue :: .membership :: .opening :: list ∧
      ∀ rest, Values (list ++ rest) values.reverse (.comma :: rest)
  | .complete whole, symbols => ∀ rest, Derives .primary (symbols ++ rest) whole rest

/-- The symbols account for the open groups, the outermost first. -/
def GroupsSpell : List OpenGroup → List Symbol → Prop
  | [], symbols => symbols = []
  | innermost :: outer, symbols =>
    ∃ before chains, symbols = before ++ chains ++ [.opening] ∧
      GroupsSpell outer before ∧ innermost.outside.Spells chains

/-- The symbols account for all of a draft. -/
def Draft.Spells (draft : Draft) (symbols : List Symbol) : Prop :=
  ∃ before chains operand, symbols = before ++ chains ++ operand ∧
    GroupsSpell draft.groups before ∧ draft.chains.Spells chains ∧ draft.phase.Spells operand

/-- An empty chain takes no symbols. -/
theorem Chains.spells_empty : Chains.empty.Spells [] :=
  ⟨[], [], 0, rfl, rfl, rfl, rfl⟩

section Chains

variable {chains : Chains} {symbols : List Symbol}

/-- The symbols of some chains are those of the disjunction to the left of an
operand and those of the conjunction that the operand ends. -/
theorem Chains.Spells.split (spelled : chains.Spells symbols) (short : symbols.length < 2 ^ 31) :
    ∃ disjuncts conjuncts, symbols = disjuncts ++ conjuncts ∧
      Leads .or chains.alternatives disjuncts ∧
      ∀ {primary operand rest}, Derives .primary primary operand rest →
        Derives (.chain .and) (conjuncts ++ primary) (chains.conjoin operand) rest := by
  obtain ⟨disjuncts, conjuncts, count, rfl, outer, inner, counted⟩ := spelled
  have fits : chains.negations.toInt.toNat = count := by
    simp only [List.length_append, List.length_replicate] at short
    rw [counted, Int32.toInt_ofNat_of_lt (by omega), Int.toNat_natCast]
  refine ⟨disjuncts, conjuncts ++ List.replicate count .negation, by simp, outer, ?_⟩
  intro primary operand rest derived
  have negated : Derives .operand (List.replicate count .negation ++ primary)
      (operand.negated count) rest := derived.primary.negated count
  rw [Chains.conjoin, fits]
  cases before : chains.conjunction with
  | none =>
      rw [before] at inner
      subst inner
      exact .chain negated (.done _ _ _)
  | some left =>
      rw [before] at inner
      rw [List.append_assoc]
      exact (inner _).chain_concat negated

variable {primary rest : List Symbol} {operand : Filter}

/-- The symbols of some chains and of an operand make up the expression that ends
with the operand. -/
theorem Chains.Spells.close (spelled : chains.Spells symbols) (short : symbols.length < 2 ^ 31)
    (derived : Derives .primary primary operand rest) :
    Derives (.chain .or) (symbols ++ primary) (chains.close operand) rest := by
  obtain ⟨disjuncts, conjuncts, rfl, outer, conjoin⟩ := spelled.split short
  have conjoined := conjoin derived
  rw [Chains.close]
  cases before : chains.alternatives with
  | none =>
      rw [before] at outer
      subst outer
      exact .chain conjoined (.done _ _ _)
  | some left =>
      rw [before] at outer
      rw [List.append_assoc]
      exact (outer _).chain_concat conjoined

/-- The symbols of some chains, of an operand and of a connective account for the
chains in front of the next operand. -/
theorem Chains.Spells.extend (spelled : chains.Spells symbols) (short : symbols.length < 2 ^ 31)
    (derived : ∀ rest, Derives .primary (primary ++ rest) operand rest) (joint : Connective) :
    (chains.extend operand joint).Spells (symbols ++ primary ++ [.connective joint]) := by
  cases joint with
  | and =>
      obtain ⟨disjuncts, conjuncts, rfl, outer, conjoin⟩ := spelled.split short
      refine ⟨disjuncts, conjuncts ++ primary ++ [.connective .and], 0, by simp, outer, ?_, rfl⟩
      intro rest
      simpa using conjoin (derived (.connective .and :: rest))
  | or =>
      refine ⟨symbols ++ primary ++ [.connective .or], [], 0, by simp, ?_, rfl, rfl⟩
      intro rest
      simpa using spelled.close short (derived (.connective .or :: rest))

end Chains

namespace Draft

variable {rules : Rules}

/-- What a token gives as a value is the value of its symbol. -/
theorem Gives.symbol {reserved : ReservedWords} {token : Token} {value : Literal}
    (given : Gives reserved token value) :
    ∃ named, token.symbol reserved = .word named (some value) := by
  obtain ⟨isValue, read⟩ := given
  unfold Token.symbol
  cases kind : token.kind <;> simp [kind, TokenKind.isValue] at isValue <;> simp [read, Except.toOption]

/-- One symbol more of an operand, the rest of the draft as before. -/
theorem Spells.grow {groups : List OpenGroup} {chains : Chains} {phase : Phase}
    {before front operand : List Symbol} {symbol : Symbol} (spelledGroups : GroupsSpell groups before)
    (spelledChains : chains.Spells front) (grown : phase.Spells (operand ++ [symbol])) :
    Spells ⟨groups, chains, phase⟩ (before ++ front ++ operand ++ [symbol]) :=
  ⟨before, front, operand ++ [symbol], by simp, spelledGroups, spelledChains, grown⟩

/-- A token that extends a draft accounts for what it adds. -/
theorem Spells.advance {draft next : Draft} {token : Token} {symbols : List Symbol}
    (spelled : draft.Spells symbols) (short : symbols.length < 2 ^ 31)
    (advances : Advances rules draft token next) :
    next.Spells (symbols ++ [token.symbol rules.reserved]) := by
  obtain ⟨before, front, operand, rfl, groups, chains, phase⟩ := spelled
  simp only [List.length_append] at short
  have fits : front.length < 2 ^ 31 := by omega
  cases advances with
  | negate _ _ _ kind =>
      obtain ⟨disjuncts, conjuncts, count, rfl, outer, inner, counted⟩ := chains
      have operand : operand = [] := phase
      subst operand
      refine ⟨before, disjuncts ++ conjuncts ++ List.replicate (count + 1) .negation, [], ?_, groups,
        ⟨disjuncts, conjuncts, count + 1, rfl, outer, inner, ?_⟩, rfl⟩
      · simp [Token.symbol, kind, List.replicate_succ']
      · rw [Chains.negate, counted, Int32.ofNat_add]
        rfl
  | openGroup _ _ _ kind =>
      have operand : operand = [] := phase
      subst operand
      exact ⟨before ++ front ++ [.opening], [], [], by simp [Token.symbol, kind],
        ⟨before, front, rfl, groups, chains⟩, Chains.spells_empty, rfl⟩
  | nameField _ _ _ kind named =>
      have operand : operand = [] := phase
      subst operand
      refine .grow groups chains ⟨(Literal.ofText rules.reserved token.text).toOption, ?_⟩
      simp [Token.symbol, kind, named, Except.toOption]
  | compare _ _ _ kind =>
      obtain ⟨asValue, rfl⟩ := phase
      exact .grow groups chains ⟨asValue, by simp [Token.symbol, kind]⟩
  | beginMembership _ _ _ kind =>
      obtain ⟨asValue, rfl⟩ := phase
      exact .grow groups chains ⟨asValue, by simp [Token.symbol, kind]⟩
  | compareWith _ _ _ _ given =>
      obtain ⟨asValue, rfl⟩ := phase
      obtain ⟨asField, symbol⟩ := given.symbol
      rw [symbol]
      exact .grow groups chains fun rest => .condition _ _ _ _ _ _
  | openList _ _ _ kind =>
      obtain ⟨asValue, rfl⟩ := phase
      exact .grow groups chains ⟨asValue, by simp [Token.symbol, kind]⟩
  | firstValue _ _ _ given =>
      obtain ⟨asValue, rfl⟩ := phase
      obtain ⟨asField, symbol⟩ := given.symbol
      rw [symbol]
      exact .grow groups chains ⟨asValue, [.word asField (some _)], rfl, fun rest => .last _ _ _⟩
  | separate _ _ _ _ kind =>
      obtain ⟨asValue, list, rfl, values⟩ := phase
      have symbol : token.symbol rules.reserved = .comma := by simp [Token.symbol, kind]
      refine .grow groups chains ⟨asValue, list ++ [.comma], by rw [symbol]; rfl, fun rest => ?_⟩
      simpa using values (.comma :: rest)
  | closeList _ _ _ _ kind =>
      obtain ⟨asValue, list, rfl, values⟩ := phase
      have symbol : token.symbol rules.reserved = .closing := by simp [Token.symbol, kind]
      refine .grow groups chains fun rest => ?_
      simpa [symbol] using Derives.oneOf _ asValue (values (.closing :: rest))
  | nextValue _ _ _ _ given =>
      obtain ⟨asValue, list, rfl, values⟩ := phase
      obtain ⟨asField, symbol⟩ := given.symbol
      rw [symbol]
      refine .grow groups chains ⟨asValue, list ++ [.word asField (some _)], rfl, fun rest => ?_⟩
      simpa using (values (.word asField (some _) :: rest)).concat
  | join _ _ _ kind =>
      refine ⟨before, front ++ operand ++ [.connective _], [], by simp [Token.symbol, kind], groups,
        chains.extend fits phase _, rfl⟩
  | closeGroup _ _ _ _ kind =>
      obtain ⟨outer, outside, rfl, spelledOuter, spelledOutside⟩ := groups
      refine ⟨outer, outside, .opening :: (front ++ operand ++ [.closing]),
        by simp [Token.symbol, kind], spelledOuter, spelledOutside, fun rest => ?_⟩
      have inner := chains.close fits (phase (.closing :: rest))
      simpa using Derives.group (by simpa using inner)

/-- The tokens that lead to a draft spell it. -/
theorem Reaches.spells {draft : Draft} {done : List Token}
    (reached : Reaches rules Draft.start done draft) (short : done.length ≤ 2 ^ 31) :
    draft.Spells (done.map (Token.symbol rules.reserved)) := by
  induction reached with
  | start => exact ⟨[], [], [], rfl, rfl, Chains.spells_empty, rfl⟩
  | advance _ advances ih =>
      simp only [List.length_append, List.length_singleton] at short
      have spelled := ih (by omega)
      simpa using spelled.advance (by rw [List.length_map]; omega) advances

/-- What a draft amounts to is derived from the symbols that spell it. -/
theorem Spells.finish {draft : Draft} {symbols : List Symbol} {filter : Filter}
    (spelled : draft.Spells symbols) (short : symbols.length < 2 ^ 31)
    (finished : draft.finish = .ok filter) : Expression symbols filter := by
  obtain ⟨chains, whole, rfl, rfl⟩ := Draft.finish_eq_ok_iff.mp finished
  obtain ⟨before, front, operand, rfl, outer, spelledChains, spelledPhase⟩ := spelled
  simp only [List.length_append] at short
  have before : before = [] := outer
  subst before
  have derived : Derives .primary operand whole [] := by simpa using spelledPhase []
  simpa [Expression] using spelledChains.close (by omega) derived

/-! ### From the grammar to the parser -/

/-- How a run goes on from a complete operand depends on the conjunction that it
ends and on the disjunction to its left, not on how these have come about. -/
theorem run_complete_congr {groups : List OpenGroup} {chains chains' : Chains}
    {operand operand' : Filter} (conjoined : chains.conjoin operand = chains'.conjoin operand')
    (same : chains.alternatives = chains'.alternatives) (tokens : List Token) :
    run rules ⟨groups, chains, .complete operand⟩ tokens =
      run rules ⟨groups, chains', .complete operand'⟩ tokens := by
  have closed : chains.close operand = chains'.close operand' := by
    simp only [Chains.close, conjoined, same]
  have extended (joint : Connective) :
      chains.extend operand joint = chains'.extend operand' joint := by
    cases joint <;> simp [Chains.extend, conjoined, closed, same]
  cases tokens with
  | nil => cases groups <;> simp [run, finish, closed]
  | cons token rest =>
      cases groups <;> cases kind : token.kind <;>
        simp [run, step, stepComplete, surplus, kind, closed, extended]

/-- A conjunction that joins a disjunction ends it, unless it goes on itself. -/
theorem run_complete_or {groups : List OpenGroup} {left right : Filter} {tokens : List Token}
    (ends : Ends .and (tokens.map (Token.symbol rules.reserved))) :
    run rules ⟨groups, ⟨some left, none, 0⟩, .complete right⟩ tokens =
      run rules ⟨groups, .empty, .complete (.binary .or left right)⟩ tokens := by
  have closed : (⟨some left, none, 0⟩ : Chains).close right =
      Chains.empty.close (.binary .or left right) := rfl
  cases tokens with
  | nil => cases groups <;> simp [run, finish, closed]
  | cons token rest =>
      cases groups <;> cases kind : token.kind with
      | connective joint =>
          cases joint with
          | and => simp [Ends, Token.symbol, kind] at ends
          | or => simp [run, step, stepComplete, kind, Chains.extend, closed]
      | _ => simp [run, step, stepComplete, surplus, kind, closed]

/-- What the tokens of a part do to a draft that waits for it: they complete it,
where the limit leaves room for its groups. -/
def Completes (rules : Rules) (filter : Filter) (tokens remaining : List Token) : Part → Prop
  | .primary => ∀ groups chains lead,
      filter.groupDepth ≤ rules.limit - (rules.depth + groups.length) →
      run rules ⟨groups, chains, .operand lead⟩ tokens =
        run rules ⟨groups, chains, .complete filter⟩ remaining
  | .operand => ∀ groups alternatives conjunction count lead,
      count + filter.leadingNegations < 2 ^ 31 →
      filter.groupDepth ≤ rules.limit - (rules.depth + groups.length) →
      run rules ⟨groups, ⟨alternatives, conjunction, Int32.ofNat count⟩, .operand lead⟩ tokens =
        run rules ⟨groups, ⟨alternatives, conjunction, 0⟩, .complete (filter.negated count)⟩
          remaining
  | .chain .and => ∀ groups alternatives lead,
      filter.groupDepth ≤ rules.limit - (rules.depth + groups.length) →
      run rules ⟨groups, ⟨alternatives, none, 0⟩, .operand lead⟩ tokens =
        run rules ⟨groups, ⟨alternatives, none, 0⟩, .complete filter⟩ remaining
  | .links .and left => ∀ groups alternatives,
      filter.groupDepth ≤ rules.limit - (rules.depth + groups.length) →
      run rules ⟨groups, ⟨alternatives, none, 0⟩, .complete left⟩ tokens =
        run rules ⟨groups, ⟨alternatives, none, 0⟩, .complete filter⟩ remaining
  | .chain .or => ∀ groups lead,
      filter.groupDepth ≤ rules.limit - (rules.depth + groups.length) →
      run rules ⟨groups, .empty, .operand lead⟩ tokens =
        run rules ⟨groups, .empty, .complete filter⟩ remaining
  | .links .or left => ∀ groups,
      filter.groupDepth ≤ rules.limit - (rules.depth + groups.length) →
      run rules ⟨groups, .empty, .complete left⟩ tokens =
        run rules ⟨groups, .empty, .complete filter⟩ remaining

/-- The values of a list are put in front of those read before. -/
theorem run_values (named : Field) {symbols rest : List Symbol} {values : List Literal}
    {tokens : List Token} (derived : Values symbols values rest)
    (same : tokens.map (Token.symbol rules.reserved) = symbols) :
    ∃ remaining, remaining.map (Token.symbol rules.reserved) = rest ∧ ∀ groups chains read,
      run rules ⟨groups, chains, .listComma named read⟩ tokens =
        run rules ⟨groups, chains, .listValue named (values.reverse ++ read)⟩ remaining := by
  induction derived generalizing tokens with
  | last asField value =>
      obtain ⟨token, remaining, rfl, word, same⟩ := List.map_eq_cons_iff.mp same
      refine ⟨remaining, same, fun groups chains read => ?_⟩
      exact (Advances.nextValue _ _ _ _ (Token.gives_of_symbol word)).run_cons remaining
  | more asField value _ ih =>
      obtain ⟨token, tail, rfl, word, same⟩ := List.map_eq_cons_iff.mp same
      obtain ⟨comma, tail, rfl, isComma, same⟩ := List.map_eq_cons_iff.mp same
      obtain ⟨remaining, sameRest, ran⟩ := ih same
      refine ⟨remaining, sameRest, fun groups chains read => ?_⟩
      rw [(Advances.nextValue _ _ _ _ (Token.gives_of_symbol word)).run_cons,
        (Advances.separate _ _ _ _ (Token.kind_of_symbol (by rw [isComma]; rfl))).run_cons, ran]
      simp

/-- The first value of a list is read as any other. -/
theorem run_listStart {groups : List OpenGroup} {chains : Chains} {named : Field}
    {symbols rest : List Symbol} {values : List Literal} {tokens : List Token}
    (derived : Values symbols values rest) (same : tokens.map (Token.symbol rules.reserved) = symbols) :
    run rules ⟨groups, chains, .listStart named⟩ tokens =
      run rules ⟨groups, chains, .listComma named []⟩ tokens := by
  obtain ⟨asField, value, tail, rfl⟩ :
      ∃ asField value tail, symbols = .word asField (some value) :: tail := by
    cases derived <;> exact ⟨_, _, _, rfl⟩
  obtain ⟨token, tail, rfl, word, -⟩ := List.map_eq_cons_iff.mp same
  have given := Token.gives_of_symbol word
  rw [(Advances.firstValue groups chains named given).run_cons,
    (Advances.nextValue groups chains named [] given).run_cons]

/-- Every part of a derivation completes the drafts that wait for it. -/
theorem completes_of_derives {part : Part} {symbols rest : List Symbol} {filter : Filter}
    (derived : Derives part symbols filter rest) (stops : part.Stops rest) {tokens : List Token}
    (same : tokens.map (Token.symbol rules.reserved) = symbols) (few : filter.negationRun < 2 ^ 31) :
    ∃ remaining, remaining.map (Token.symbol rules.reserved) = rest ∧
      Completes rules filter tokens remaining part := by
  induction derived generalizing tokens with
  | @chain joint symbols middle rest first whole head tail ihHead ihTail =>
      have shallower := tail.groupDepth_le
      have fewer := tail.negationRun_le_of_links
      have leading := first.leadingNegations_le
      obtain ⟨between, sameBetween, ranHead⟩ :=
        ihHead (tail.stops_joinedBy stops) same (by omega)
      obtain ⟨remaining, sameRest, ranTail⟩ := ihTail stops sameBetween few
      refine ⟨remaining, sameRest, ?_⟩
      cases joint with
      | and =>
          intro groups alternatives lead room
          have operand := ranHead groups alternatives none 0 lead (by omega) (by omega)
          exact operand.trans (ranTail groups alternatives room)
      | or =>
          intro groups lead room
          exact (ranHead groups none lead (by omega)).trans (ranTail groups room)
  | done joint left rest =>
      refine ⟨tokens, same, ?_⟩
      cases joint with
      | and => exact fun _ _ _ => rfl
      | or => exact fun _ _ => rfl
  | @link joint symbols middle rest left right whole head tail ihHead ihTail =>
      obtain ⟨token, after, rfl, isJoint, same⟩ := List.map_eq_cons_iff.mp same
      have shallower : right.groupDepth ≤ whole.groupDepth :=
        Nat.le_trans (Nat.le_max_right _ _) tail.groupDepth_le
      have fewer : right.negationRun ≤ whole.negationRun :=
        Nat.le_trans (Nat.le_max_right _ _) tail.negationRun_le_of_links
      have leading := right.leadingNegations_le
      have ends := tail.stops_joinedBy stops
      obtain ⟨between, sameBetween, ranHead⟩ := ihHead ends same (by omega)
      obtain ⟨remaining, sameRest, ranTail⟩ := ihTail stops sameBetween few
      refine ⟨remaining, sameRest, ?_⟩
      have kind : token.kind = .connective joint := Token.kind_of_symbol (by rw [isJoint]; rfl)
      cases joint with
      | and =>
          intro groups alternatives room
          rw [(Advances.join groups _ left kind).run_cons]
          have operand := ranHead groups alternatives (some left) 0 (some (.connective .and))
            (by omega) (by omega)
          have conjoined : (⟨alternatives, some left, 0⟩ : Chains).conjoin right =
              (⟨alternatives, none, 0⟩ : Chains).conjoin (.binary .and left right) := rfl
          exact operand.trans ((run_complete_congr conjoined rfl between).trans
            (ranTail groups alternatives room))
      | or =>
          intro groups room
          rw [(Advances.join groups _ left kind).run_cons]
          have conjunction := ranHead groups (some left) (some (.connective .or)) (by omega)
          exact conjunction.trans ((run_complete_or (by rw [sameBetween]; exact ends)).trans
            (ranTail groups room))
  | @negation symbols rest operand _ ih =>
      obtain ⟨token, after, rfl, isNegation, same⟩ := List.map_eq_cons_iff.mp same
      simp only [negationRun] at few
      obtain ⟨remaining, sameRest, ran⟩ := ih stops same (by omega)
      refine ⟨remaining, sameRest, ?_⟩
      intro groups alternatives conjunction count lead fits room
      simp only [leadingNegations] at fits
      have kind : token.kind = .negation := Token.kind_of_symbol (by rw [isNegation]; rfl)
      rw [(Advances.negate groups _ lead kind).run_cons, Chains.negate]
      have counted : Int32.ofNat count + 1 = Int32.ofNat (count + 1) := (Int32.ofNat_add count 1).symm
      rw [counted]
      exact ran groups alternatives conjunction (count + 1) _ (by omega) room
  | @primary symbols rest operand derived ih =>
      obtain ⟨remaining, sameRest, ran⟩ := ih True.intro same few
      refine ⟨remaining, sameRest, ?_⟩
      intro groups alternatives conjunction count lead fits room
      rw [ran groups _ lead room]
      apply run_complete_congr
      · have counted : (Int32.ofNat count).toInt.toNat = count := by
          rw [Int32.toInt_ofNat_of_lt (by omega), Int.toNat_natCast]
        simp only [Chains.conjoin, counted]
        rfl
      · rfl
  | @group symbols rest inner _ ih =>
      obtain ⟨opening, after, rfl, isOpening, same⟩ := List.map_eq_cons_iff.mp same
      obtain ⟨between, sameBetween, ran⟩ := ih (by simp [Part.Stops, Ends]) same few
      obtain ⟨closing, remaining, rfl, isClosing, sameRest⟩ := List.map_eq_cons_iff.mp sameBetween
      refine ⟨remaining, sameRest, ?_⟩
      intro groups chains lead room
      simp only [groupDepth] at room
      have opens : opening.kind = .opening := Token.kind_of_symbol (by rw [isOpening]; rfl)
      have closes : closing.kind = .closing := Token.kind_of_symbol (by rw [isClosing]; rfl)
      rw [(Advances.openGroup groups chains lead opens (by omega)).run_cons,
        ran _ none (by simp only [List.length_cons]; omega),
        (Advances.closeGroup _ groups .empty inner closes).run_cons]
      rfl
  | condition named sign value asValue asField rest =>
      obtain ⟨first, after, rfl, isField, same⟩ := List.map_eq_cons_iff.mp same
      obtain ⟨second, after, rfl, isSign, same⟩ := List.map_eq_cons_iff.mp same
      obtain ⟨third, remaining, rfl, isValue, same⟩ := List.map_eq_cons_iff.mp same
      refine ⟨remaining, same, ?_⟩
      intro groups chains lead _
      obtain ⟨isName, read⟩ := Token.names_of_symbol isField
      have compares : second.kind = .comparison sign := Token.kind_of_symbol (by rw [isSign]; rfl)
      rw [(Advances.nameField groups chains lead isName read).run_cons,
        (Advances.compare groups chains named compares).run_cons,
        (Advances.compareWith groups chains named sign (Token.gives_of_symbol isValue)).run_cons]
  | @oneOf named asValue symbols rest values derived =>
      obtain ⟨first, after, rfl, isField, same⟩ := List.map_eq_cons_iff.mp same
      obtain ⟨second, after, rfl, isMembership, same⟩ := List.map_eq_cons_iff.mp same
      obtain ⟨third, after, rfl, isOpening, same⟩ := List.map_eq_cons_iff.mp same
      obtain ⟨isName, read⟩ := Token.names_of_symbol isField
      have begins : second.kind = .membership := Token.kind_of_symbol (by rw [isMembership]; rfl)
      have opens : third.kind = .opening := Token.kind_of_symbol (by rw [isOpening]; rfl)
      obtain ⟨between, sameBetween, ran⟩ := run_values named derived same
      obtain ⟨closing, remaining, rfl, isClosing, sameRest⟩ := List.map_eq_cons_iff.mp sameBetween
      have closes : closing.kind = .closing := Token.kind_of_symbol (by rw [isClosing]; rfl)
      refine ⟨remaining, sameRest, ?_⟩
      intro groups chains lead _
      rw [(Advances.nameField groups chains lead isName read).run_cons,
        (Advances.beginMembership groups chains named begins).run_cons,
        (Advances.openList groups chains named opens).run_cons,
        run_listStart derived same, ran groups chains [],
        (Advances.closeList groups chains named _ closes).run_cons]
      simp

/-- A derivation of an expression is followed by a parser to its end, if the counter of
negations does not overflow. -/
theorem run_of_negationRun (rules : Rules) {tokens : List Token} {filter : Filter}
    (derived : Expression (tokens.map (Token.symbol rules.reserved)) filter)
    (few : filter.negationRun < 2 ^ 31) (room : filter.groupDepth ≤ rules.limit - rules.depth) :
    Draft.start.run rules tokens = (.ok filter, []) := by
  obtain ⟨remaining, sameRest, completes⟩ :=
    completes_of_derives derived (by simp [Part.Stops, Ends]) rfl few
  obtain rfl := List.map_eq_nil_iff.mp sameRest
  exact completes [] none room

/-- So it is where there are too few tokens for that. -/
theorem run_of_expression (rules : Rules) {tokens : List Token} {filter : Filter}
    (derived : Expression (tokens.map (Token.symbol rules.reserved)) filter)
    (short : tokens.length < 2 ^ 31) (room : filter.groupDepth ≤ rules.limit - rules.depth) :
    Draft.start.run rules tokens = (.ok filter, []) := by
  have bound := Derives.negationRun_le derived
  simp only [Part.negationRun, List.length_map] at bound
  exact run_of_negationRun rules derived (by omega) room

end Draft

/-- A parser answers with a filter exactly if the grammar derives the filter from
all of the tokens and no token lies under more groups than the limit admits; and
it derives no other filter from them. The bound on the number of tokens is that
of the counter of negations; the grammar is unambiguous without it. -/
theorem ofTokens_eq_ok_iff_expression (reserved : ReservedWords) (limit : Nat)
    (tokens : List Token) :
    (tokens.length < 2 ^ 31 → ∀ filter,
      Filter.ofTokens reserved limit tokens = .ok filter ↔
        Expression (tokens.map (Token.symbol reserved)) filter ∧ filter.groupDepth ≤ limit) ∧
    ∀ filter other, Expression (tokens.map (Token.symbol reserved)) filter →
      Expression (tokens.map (Token.symbol reserved)) other → filter = other := by
  refine ⟨fun short filter => ⟨fun parsed => ⟨?_, groupDepth_le_of_parse parsed⟩, ?_⟩,
    fun _ _ => Expression.unique⟩
  · obtain ⟨last, reached, finished⟩ := reaches_of_parse parsed
    have spelled := reached.spells (Nat.le_of_lt short)
    exact spelled.finish (by rwa [List.length_map]) finished
  · rintro ⟨derived, room⟩
    exact congrArg Prod.fst (Draft.run_of_expression ⟨reserved, limit, 0⟩ derived short room)

/-- The tokens of `not (userId lt 5)`. -/
def negatedGroup : List Token :=
  [⟨.negation, "not", ⟨0, 3⟩⟩, ⟨.opening, "(", ⟨4, 5⟩⟩, ⟨.identifier, "userId", ⟨5, 11⟩⟩,
   ⟨.comparison .less, "lt", ⟨12, 14⟩⟩, ⟨.number, "5", ⟨15, 16⟩⟩, ⟨.closing, ")", ⟨16, 17⟩⟩]

/-- Both sides hold of a negated group under the limit of one group. -/
theorem expression_negatedGroup :
    negatedGroup.length < 2 ^ 31 ∧
      Expression (negatedGroup.map (Token.symbol .standard))
        (.negation (.group (.condition ⟨"user_id"⟩ .less ⟨"5"⟩))) := by
  have short : negatedGroup.length < 2 ^ 31 := by decide
  have parsed : Filter.ofTokens .standard 1 negatedGroup =
      .ok (.negation (.group (.condition ⟨"user_id"⟩ .less ⟨"5"⟩))) := rfl
  exact ⟨short, (((ofTokens_eq_ok_iff_expression .standard 1 negatedGroup).1 short _).mp parsed).1⟩

end Filter

end WhereClause
