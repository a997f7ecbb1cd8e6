/-
# Reading a statement back

A statement tells which table it selects from and which condition it has. The name of the table
ends at the first quote that does not stand in a pair, so nothing in a name is taken for what
follows it, neither a quote nor the word that begins a condition. What is read is what was
written, and nothing but what would be written so is read.

The condition is read as a text, not as a filter. Two filters that are written alike make the
same statement.
-/

import Mathlib.Data.List.Basic
import WhereClause.Proofs.Text.Doubling
import WhereClause.Select

namespace WhereClause

namespace Catalog

/-- Read a name from behind its opening quote on. Two quotes in a row stand for one, and a quote
that no quote follows ends the name. What follows it is answered as well. -/
def readName (quote : Char) : List Char → Option (List Char × List Char)
  | [] => none
  | c :: rest =>
    if c = quote then
      match rest with
      | [] => some ([], [])
      | d :: more =>
        if d = quote then (readName quote more).map (Prod.map (quote :: ·) id)
        else some ([], d :: more)
    else
      (readName quote rest).map (Prod.map (c :: ·) id)

/-- Read what follows the name of the table: nothing, or a condition. -/
def readCondition (behind : List Char) : Option (Option String) :=
  if behind = [] then
    some none
  else
    (" WHERE ".toList.isPrefixOf? behind).map fun condition => some (String.ofList condition)

/-- Read the table and the condition of a statement in a dialect. -/
def readSelect (dialect : Dialect) (statement : String) : Option (String × Option String) := do
  let named ← ("SELECT * FROM ".toList ++ [dialect.quote]).isPrefixOf? statement.toList
  let (name, behind) ← readName dialect.quote named
  let condition ← readCondition behind
  return (String.ofList name, condition)

/-- What is written behind the name of the table. -/
def conditionText : Option String → String
  | none => ""
  | some condition => " WHERE " ++ condition

/-! ### What is read was written -/

/-- A name goes on to the first quote that does not stand in a pair. -/
theorem readName_eq_some_iff {quote : Char} {cs name behind : List Char} :
    readName quote cs = some (name, behind) ↔
      cs = Text.double quote name ++ quote :: behind ∧ behind.head? ≠ some quote := by
  constructor
  · intro read
    fun_induction readName quote cs generalizing name with
    | case1 => cases read
    | case2 =>
        cases read
        exact ⟨rfl, by simp⟩
    | case3 more ih =>
        obtain ⟨⟨name, _⟩, found, same⟩ := Option.map_eq_some_iff.mp read
        cases same
        obtain ⟨rfl, stops⟩ := ih found
        exact ⟨by simp [Text.double_cons], stops⟩
    | case4 d more other =>
        cases read
        exact ⟨rfl, by simpa using other⟩
    | case5 c rest notQuote ih =>
        obtain ⟨⟨name, _⟩, found, same⟩ := Option.map_eq_some_iff.mp read
        cases same
        obtain ⟨rfl, stops⟩ := ih found
        exact ⟨by simp [Text.double_cons, notQuote], stops⟩
  · rintro ⟨rfl, stops⟩
    induction name with
    | nil =>
        cases behind with
        | nil => simp [Text.double, readName]
        | cons d more =>
            have other : d ≠ quote := by simpa using stops
            simp [Text.double, readName, other]
    | cons c name ih =>
        rw [Text.double_cons]
        by_cases isQuote : c = quote
        · simp [isQuote, readName, ih]
        · rw [if_neg isQuote, List.append_assoc, List.singleton_append, readName.eq_def]
          simp [isQuote, ih]

/-- What follows the name of the table is nothing or a condition. -/
theorem readCondition_eq_some_iff {behind : List Char} {condition : Option String} :
    readCondition behind = some condition ↔ behind = (conditionText condition).toList := by
  unfold readCondition
  by_cases empty : behind = []
  · cases condition with
    | none => simp [conditionText, empty]
    | some condition => simp [conditionText, empty]
  · rw [if_neg empty]
    cases condition with
    | none => simp [conditionText, empty]
    | some condition =>
        rw [conditionText, String.toList_append, Option.map_eq_some_iff]
        constructor
        · rintro ⟨text, found, same⟩
          have written : condition.toList = text := by
            rw [← Option.some.inj same, String.toList_ofList]
          rw [written]
          exact (List.isPrefixOf?_eq_some_iff_append_eq.mp found).symm
        · intro same
          exact ⟨condition.toList, List.isPrefixOf?_eq_some_iff_append_eq.mpr same.symm,
            by rw [String.ofList_toList]⟩

/-- A condition does not begin with the quote of a dialect, so that no quote of a name can go
together with what follows the name. -/
theorem head?_conditionText (dialect : Dialect) (condition : Option String) :
    (conditionText condition).toList.head? ≠ some dialect.quote := by
  cases condition with
  | none => simp [conditionText]
  | some condition =>
      have blank : (conditionText (some condition)).toList.head? = some ' ' := by
        rw [conditionText, String.toList_append]
        rfl
      rw [blank]
      cases dialect <;> decide

/-- There is one way to end a name at a quote that no quote follows. -/
theorem name_unique {quote : Char} {name name' behind behind' : List Char}
    (stops : behind.head? ≠ some quote) (stops' : behind'.head? ≠ some quote)
    (same : Text.double quote name ++ quote :: behind =
      Text.double quote name' ++ quote :: behind') : name = name' ∧ behind = behind' := by
  have read : readName quote (Text.double quote name ++ quote :: behind) = some (name, behind) :=
    readName_eq_some_iff.mpr ⟨rfl, stops⟩
  have read' := readName_eq_some_iff.mpr ⟨same, stops'⟩
  exact Prod.mk.inj (Option.some.inj (read.symm.trans read'))

/-- The characters of a statement. -/
theorem toList_statement (dialect : Dialect) (table : String) (condition : Option String) :
    ("SELECT * FROM " ++ quotedName dialect table ++ conditionText condition).toList =
      "SELECT * FROM ".toList ++ dialect.quote ::
        (Text.double dialect.quote table.toList ++
          dialect.quote :: (conditionText condition).toList) := by
  rw [String.toList_append, String.toList_append, quotedName]
  simp

/-- What is read of a statement was written, and what is written is read. -/
theorem readSelect_eq_some_iff {dialect : Dialect} {statement table : String}
    {condition : Option String} :
    readSelect dialect statement = some (table, condition) ↔
      statement = "SELECT * FROM " ++ quotedName dialect table ++ conditionText condition := by
  constructor
  · intro read
    simp only [readSelect, Option.bind_eq_bind, Option.bind_eq_some_iff] at read
    obtain ⟨named, begins, ⟨name, behind⟩, found, condition', follows, same⟩ := read
    obtain ⟨isTable, rfl⟩ := Prod.mk.inj (Option.some.inj same)
    have letters : table.toList = name := by rw [← isTable, String.toList_ofList]
    obtain ⟨isNamed, -⟩ := readName_eq_some_iff.mp found
    have written := List.isPrefixOf?_eq_some_iff_append_eq.mp begins
    rw [← String.toList_inj, toList_statement, letters, ← readCondition_eq_some_iff.mp follows,
      ← isNamed, ← written, List.append_assoc, List.singleton_append]
  · rintro rfl
    have begins : ("SELECT * FROM ".toList ++ [dialect.quote]).isPrefixOf?
        ("SELECT * FROM " ++ quotedName dialect table ++ conditionText condition).toList =
          some (Text.double dialect.quote table.toList ++
            dialect.quote :: (conditionText condition).toList) := by
      rw [toList_statement, List.isPrefixOf?_eq_some_iff_append_eq, List.append_assoc,
        List.singleton_append]
    have found : readName dialect.quote (Text.double dialect.quote table.toList ++
        dialect.quote :: (conditionText condition).toList) =
          some (table.toList, (conditionText condition).toList) :=
      readName_eq_some_iff.mpr ⟨rfl, head?_conditionText dialect condition⟩
    have follows := readCondition_eq_some_iff.mpr (Eq.refl (conditionText condition).toList)
    simp only [readSelect, begins, found, follows, Option.bind_eq_bind, Option.bind_some,
      String.ofList_toList]
    rfl

/-- The statement of an entity and a filter, with the text of the filter for its condition. -/
theorem select_eq (catalog : Catalog) (filter : Option Filter) (entity : String) :
    catalog.select filter entity =
      "SELECT * FROM " ++ quotedName catalog.dialect (catalog.tableName entity) ++
        conditionText (filter.map Filter.sql) := by
  cases filter with
  | none => rfl
  | some filter => rfl

/-- Reading a statement gives back the table and the text of the filter. -/
theorem readSelect_select (catalog : Catalog) (filter : Option Filter) (entity : String) :
    readSelect catalog.dialect (catalog.select filter entity) =
      some (catalog.tableName entity, filter.map Filter.sql) :=
  readSelect_eq_some_iff.mpr (select_eq catalog filter entity)

/-- Two statements in one dialect are equal only if they are written from the same parts. -/
theorem select_eq_select_iff {catalog catalog' : Catalog} {filter filter' : Option Filter}
    {entity entity' : String} (dialects : catalog.dialect = catalog'.dialect) :
    catalog.select filter entity = catalog'.select filter' entity' ↔
      catalog.tableName entity = catalog'.tableName entity' ∧
        filter.map Filter.sql = filter'.map Filter.sql := by
  constructor
  · intro same
    have read := readSelect_select catalog filter entity
    rw [same, dialects, readSelect_select] at read
    exact Prod.mk.inj (Option.some.inj read.symm)
  · rintro ⟨sameTable, sameText⟩
    rw [select_eq, select_eq, dialects, sameTable, sameText]

/-- A quoted name that a statement begins with, and that no quote follows, is the name of the
table. -/
theorem toList_select_iff (catalog : Catalog) (filter : Option Filter) (entity : String)
    (name behind : List Char) :
    (catalog.select filter entity).toList =
          "SELECT * FROM ".toList ++ catalog.dialect.quote ::
            (Text.double catalog.dialect.quote name ++ catalog.dialect.quote :: behind) ∧
        behind.head? ≠ some catalog.dialect.quote ↔
      name = (catalog.tableName entity).toList ∧
        behind = (conditionText (filter.map Filter.sql)).toList := by
  rw [select_eq, toList_statement]
  constructor
  · rintro ⟨written, stops⟩
    have same := (List.cons.inj (List.append_cancel_left written)).2
    obtain ⟨rfl, rfl⟩ := name_unique (head?_conditionText _ _) stops same
    exact ⟨rfl, rfl⟩
  · rintro ⟨rfl, rfl⟩
    exact ⟨rfl, head?_conditionText _ _⟩

/-- A name may hold the quote and what looks like a condition. -/
example : readSelect .mysql "SELECT * FROM \x60a\x60\x60 WHERE \x60\x60\x60 WHERE b = 1" =
    some ("a\x60 WHERE \x60", some "b = 1") := by
  cbv

end Catalog

end WhereClause
