/-
# Table mappings

A finite map from the names of entities to the names of tables. It is kept as a
list of entries sorted by entity, so two mappings that give every entity the
same table are equal, however they came about.
-/

namespace WhereClause

/-- A map from entities to tables. -/
structure TableMapping where
  entries : List (String × String)
  sorted : entries.Pairwise (·.1 < ·.1)
  deriving DecidableEq, Repr

namespace TableMapping

/-- The mapping without entries. -/
def empty : TableMapping :=
  { entries := [], sorted := .nil }

/-- Put an entry into a sorted list, in the place of one with the same entity. -/
def insertEntry (entity table : String) : List (String × String) → List (String × String)
  | [] => [(entity, table)]
  | entry :: rest =>
    if entity < entry.1 then
      (entity, table) :: entry :: rest
    else if entity = entry.1 then
      (entity, table) :: rest
    else
      entry :: insertEntry entity table rest

/-- Inserting brings in no entity but the one inserted. -/
theorem mem_insertEntry {entity table : String} {entries : List (String × String)}
    {entry : String × String} (h : entry ∈ insertEntry entity table entries) :
    entry.1 = entity ∨ entry ∈ entries := by
  induction entries with
  | nil => simp_all [insertEntry]
  | cons first rest ih =>
    simp only [insertEntry] at h
    split at h
    · rcases List.mem_cons.1 h with rfl | h
      · exact .inl rfl
      · exact .inr h
    · split at h
      · rcases List.mem_cons.1 h with rfl | h
        · exact .inl rfl
        · exact .inr (List.mem_cons_of_mem _ h)
      · rcases List.mem_cons.1 h with rfl | h
        · exact .inr List.mem_cons_self
        · exact (ih h).imp id (List.mem_cons_of_mem _)

/-- Inserting keeps a list sorted. -/
theorem sorted_insertEntry (entity table : String) {entries : List (String × String)}
    (sorted : entries.Pairwise (·.1 < ·.1)) :
    (insertEntry entity table entries).Pairwise (·.1 < ·.1) := by
  induction entries with
  | nil => simp [insertEntry]
  | cons first rest ih =>
    obtain ⟨least, sorted⟩ := List.pairwise_cons.1 sorted
    simp only [insertEntry]
    split
    · rename_i before
      refine .cons ?_ (.cons least sorted)
      intro entry h
      rcases List.mem_cons.1 h with rfl | h
      · exact before
      · exact String.lt_trans before (least entry h)
    · split
      · rename_i same
        exact .cons (fun entry h => same ▸ least entry h) sorted
      · rename_i notBefore different
        refine .cons ?_ (ih sorted)
        intro entry h
        rcases mem_insertEntry h with rfl | h
        · by_cases after : first.1 < entry.1
          · exact after
          · exact absurd (String.le_antisymm (String.not_lt.1 after) (String.not_lt.1 notBefore))
              different
        · exact least entry h

/-- Map an entity to a table, whatever it was mapped to before. -/
def insert (mapping : TableMapping) (entity table : String) : TableMapping :=
  { entries := insertEntry entity table mapping.entries
    sorted := sorted_insertEntry entity table mapping.sorted }

/-- The mapping with the given entries. Of two for one entity the later counts. -/
def ofList (entries : List (String × String)) : TableMapping :=
  entries.foldl (fun mapping entry => mapping.insert entry.1 entry.2) empty

/-- The table of an entity, if it is mapped to one. -/
def find? (mapping : TableMapping) (entity : String) : Option String :=
  mapping.entries.lookup entity

end TableMapping

end WhereClause
