/-
# Items read one by one

The elements of an array and the members of an object are read alike: an item, then a comma and
another item or the mark that closes the whole. A reader of lexemes that does so on some states
is told by what each item makes of what the items before it have made. `Reads` says which states
these are, and `Reads.separated` that such a reader takes all items and nothing else.
-/

import WhereClause.Proofs.Json.Lexeme
import WhereClause.Proofs.Steps

namespace WhereClause.Json

/-! ### What items make together -/

/-- What items make of a state one after another, if each does to it what the relation says. -/
inductive Chain {κ ι : Type} (makes : κ → ι → κ → Prop) : κ → List ι → κ → Prop
  | nil (state : κ) : Chain makes state [] state
  | cons {state between last : κ} {item : ι} {items : List ι} (first : makes state item between)
      (rest : Chain makes between items last) : Chain makes state (item :: items) last

section

variable {κ ι α : Type} {makes : κ → ι → κ → Prop} {state last : κ}

theorem chain_nil_iff : Chain makes state [] last ↔ last = state :=
  ⟨fun chain => by cases chain; rfl, fun same => by rw [same]; exact .nil state⟩

theorem chain_cons_iff {item : ι} {items : List ι} : Chain makes state (item :: items) last ↔
    ∃ between, makes state item between ∧ Chain makes between items last :=
  ⟨fun chain => by cases chain with | cons first rest => exact ⟨_, first, rest⟩,
    fun ⟨_, first, rest⟩ => .cons first rest⟩

/-- Items that write data, each of which is added to the state, make the sum of the data. -/
theorem chain_iff_foldl {write : α → ι} {add : κ → α → κ} {items : List ι}
    (made : ∀ state item last,
      makes state item last ↔ ∃ datum, item = write datum ∧ last = add state datum) :
    Chain makes state items last ↔
      ∃ data : List α, items = data.map write ∧ last = data.foldl add state := by
  induction items generalizing state with
  | nil =>
      rw [chain_nil_iff]
      constructor
      · rintro rfl
        exact ⟨[], rfl, rfl⟩
      · rintro ⟨data, nothing, rfl⟩
        rw [List.map_eq_nil_iff.mp nothing.symm, List.foldl_nil]
  | cons item items ih =>
      rw [chain_cons_iff]
      constructor
      · rintro ⟨between, first, rest⟩
        obtain ⟨datum, rfl, rfl⟩ := (made _ _ _).mp first
        obtain ⟨data, rfl, rfl⟩ := ih.mp rest
        exact ⟨datum :: data, rfl, rfl⟩
      · rintro ⟨data, written, rfl⟩
        obtain ⟨datum, data, rfl, rfl, rfl⟩ := List.map_eq_cons_iff.mp written.symm
        exact ⟨_, (made _ _ _).mpr ⟨datum, rfl, rfl⟩, ih.mpr ⟨data, rfl, rfl⟩⟩

end

/-! ### Readers of items -/

section

variable {κ ι ε σ : Type}

/-- A reader takes items, with commas between them, and the mark that closes the whole. It is in
`before` where an item comes, with a flag that tells whether the whole may be closed instead, in
`behind` after an item, and in `closed` after the whole. -/
structure Reads (step : σ → Lexeme → Except ε σ) (lexemes : ι → List Lexeme) (close : Lexeme)
    (makes : κ → ι → κ → Prop) (before : κ → Bool → σ) (behind closed : κ → σ) : Prop where
  item : ∀ state closable item next, (lexemes item).foldlM step (before state closable) = .ok next ↔
    ∃ after, makes state item after ∧ next = behind after
  comma : ∀ state, step (behind state) .comma = .ok (before state false)
  last : ∀ state, step (behind state) close = .ok (closed state)
  nothing : ∀ state, step (before state true) close = .ok (closed state)

variable {step : σ → Lexeme → Except ε σ} {lexemes : ι → List Lexeme} {close : Lexeme}
  {makes : κ → ι → κ → Prop} {before : κ → Bool → σ} {behind closed : κ → σ}

/-- The items behind the first one are read in turn. -/
theorem Reads.more (reads : Reads step lexemes close makes before behind closed) (state : κ)
    (items : List ι) (next : σ) :
    ((items.map lexemes).flatMap (Lexeme.comma :: ·) ++ [close]).foldlM step (behind state) =
        .ok next ↔ ∃ last, Chain makes state items last ∧ next = closed last := by
  induction items generalizing state with
  | nil =>
      rw [List.map_nil, List.flatMap_nil, List.nil_append, foldlM_cons_of_step (reads.last state),
        foldlM_nil_eq_ok]
      simp only [chain_nil_iff, exists_eq_left]
  | cons item items ih =>
      rw [List.map_cons, List.flatMap_cons, List.append_assoc, List.cons_append,
        foldlM_cons_of_step (reads.comma state), foldlM_append_eq_ok]
      simp only [reads.item, chain_cons_iff]
      constructor
      · rintro ⟨_, ⟨between, first, rfl⟩, rest⟩
        obtain ⟨last, chain, rfl⟩ := (ih between).mp rest
        exact ⟨last, ⟨between, first, chain⟩, rfl⟩
      · rintro ⟨last, ⟨between, first, chain⟩, rfl⟩
        exact ⟨_, ⟨between, first, rfl⟩, (ih between).mpr ⟨last, chain, rfl⟩⟩

/-- The whole is read to its end exactly if each item can be read where it stands. -/
theorem Reads.separated (reads : Reads step lexemes close makes before behind closed) (state : κ)
    (items : List ι) (next : σ) :
    (Json.separated (items.map lexemes) ++ [close]).foldlM step (before state true) =
        .ok next ↔ ∃ last, Chain makes state items last ∧ next = closed last := by
  cases items with
  | nil =>
      rw [List.map_nil, Json.separated, List.nil_append,
        foldlM_cons_of_step (reads.nothing state), foldlM_nil_eq_ok]
      simp only [chain_nil_iff, exists_eq_left]
  | cons item items =>
      rw [List.map_cons, Json.separated, List.append_assoc, foldlM_append_eq_ok]
      simp only [reads.item, chain_cons_iff]
      constructor
      · rintro ⟨_, ⟨between, first, rfl⟩, rest⟩
        obtain ⟨last, chain, rfl⟩ := (reads.more between items next).mp rest
        exact ⟨last, ⟨between, first, chain⟩, rfl⟩
      · rintro ⟨last, ⟨between, first, chain⟩, rfl⟩
        exact ⟨_, ⟨between, first, rfl⟩, (reads.more between items _).mpr ⟨last, chain, rfl⟩⟩

/-- A reader gets to the item behind those that it can read, whatever comes then. -/
theorem Reads.toNext (reads : Reads step lexemes close makes before behind closed) {state last : κ}
    {items : List ι} (chain : Chain makes state items last) (item : ι) (others : List ι) :
    ∃ taken left, ((items ++ item :: others).map lexemes).flatMap (Lexeme.comma :: ·) =
        taken ++ (lexemes item ++ left) ∧
      taken.foldlM step (behind state) = .ok (before last false) := by
  induction chain with
  | nil state =>
      refine ⟨[.comma], (others.map lexemes).flatMap (Lexeme.comma :: ·), rfl, ?_⟩
      rw [foldlM_cons_of_step (reads.comma state)]
      rfl
  | @cons state between last first items made _ ih =>
      obtain ⟨taken, left, cut, read⟩ := ih
      refine ⟨.comma :: (lexemes first ++ taken), left, ?_, ?_⟩
      · rw [List.cons_append, List.map_cons, List.flatMap_cons, cut]
        simp only [List.cons_append, List.append_assoc]
      · have item := (reads.item state false first _).mpr ⟨between, made, rfl⟩
        rw [foldlM_cons_of_step (reads.comma state), foldlM_append_of_steps item, read]

/-- So does one that has read nothing. -/
theorem Reads.toItem (reads : Reads step lexemes close makes before behind closed) {state last : κ}
    {items : List ι} (chain : Chain makes state items last) (item : ι) (others : List ι) :
    ∃ taken left closable, Json.separated ((items ++ item :: others).map lexemes) =
        taken ++ (lexemes item ++ left) ∧
      taken.foldlM step (before state true) = .ok (before last closable) := by
  cases chain with
  | nil => exact ⟨[], (others.map lexemes).flatMap (Lexeme.comma :: ·), true, rfl, rfl⟩
  | @cons _ between _ first items made chain =>
      obtain ⟨taken, left, cut, read⟩ := reads.toNext chain item others
      refine ⟨lexemes first ++ taken, left, false, ?_, ?_⟩
      · rw [List.cons_append, List.map_cons, Json.separated, cut, List.append_assoc]
      · have item := (reads.item state true first _).mpr ⟨between, made, rfl⟩
        rw [foldlM_append_of_steps item, read]

variable {state next : σ} {value : Value}

/-- A value is read lexeme by lexeme, and has a first one. -/
theorem foldlM_lexemes_eq_ok : value.lexemes.foldlM step state = .ok next ↔
    ∃ first others between, value.lexemes = first :: others ∧ step state first = .ok between ∧
      others.foldlM step between = .ok next := by
  constructor
  · intro read
    obtain ⟨others, lexemes⟩ := value.exists_lexemes
    rw [lexemes, foldlM_cons_eq_ok] at read
    obtain ⟨between, taken, rest⟩ := read
    exact ⟨value.first, others, between, lexemes, taken, rest⟩
  · rintro ⟨first, others, between, lexemes, taken, rest⟩
    rw [lexemes, foldlM_cons_of_step taken, rest]

/-- Where nothing but an array can be read, its elements are. -/
theorem foldlM_array (inside : σ) (opened : ∀ found between,
    step state found = .ok between ↔ found = .openBracket ∧ between = inside) :
    value.lexemes.foldlM step state = .ok next ↔ ∃ elements, value = .array elements ∧
      (Json.separated (elements.map Value.lexemes) ++ [Lexeme.closeBracket]).foldlM step inside =
        .ok next := by
  simp only [foldlM_lexemes_eq_ok, opened]
  constructor
  · rintro ⟨_, _, _, lexemes, ⟨rfl, rfl⟩, rest⟩
    obtain ⟨elements, rfl, rfl⟩ := Value.eq_array_of_lexemes lexemes
    exact ⟨elements, rfl, rest⟩
  · rintro ⟨elements, rfl, rest⟩
    exact ⟨_, _, _, Value.lexemes_array elements, ⟨rfl, rfl⟩, rest⟩

/-- Where nothing but an object can be read, its members are. -/
theorem foldlM_object (inside : σ) (opened : ∀ found between,
    step state found = .ok between ↔ found = .openBrace ∧ between = inside) :
    value.lexemes.foldlM step state = .ok next ↔ ∃ members, value = .object members ∧
      (Json.separated (members.map memberLexemes) ++ [Lexeme.closeBrace]).foldlM step inside =
        .ok next := by
  simp only [foldlM_lexemes_eq_ok, opened]
  constructor
  · rintro ⟨_, _, _, lexemes, ⟨rfl, rfl⟩, rest⟩
    obtain ⟨members, rfl, rfl⟩ := Value.eq_object_of_lexemes lexemes
    exact ⟨members, rfl, rest⟩
  · rintro ⟨members, rfl, rest⟩
    exact ⟨_, _, _, Value.lexemes_object members, ⟨rfl, rfl⟩, rest⟩

end

end WhereClause.Json
