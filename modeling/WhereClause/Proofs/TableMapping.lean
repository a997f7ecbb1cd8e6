/-
# What a table mapping maps

A mapping is determined by the table that it gives each entity. Inserting an entry changes
the table of its entity and no other, so of entries that are inserted one after another the
last one for an entity counts.
-/

import Mathlib.Data.List.Induction
import WhereClause.TableMapping

namespace WhereClause.TableMapping

theorem lookup_cons_eq_ite (key value : String) (entries : List (String × String))
    (entity : String) : ((key, value) :: entries).lookup entity =
      if entity = key then some value else entries.lookup entity := by
  by_cases same : entity = key
  · rw [if_pos same, List.lookup_cons, beq_iff_eq.mpr same]
  · rw [if_neg same, List.lookup_cons, beq_false_of_ne same]

/-- Inserting an entry changes what is found for its entity. -/
theorem lookup_insertEntry (entity table : String) (entries : List (String × String))
    (other : String) : (insertEntry entity table entries).lookup other =
      if other = entity then some table else entries.lookup other := by
  induction entries with
  | nil => rw [insertEntry, lookup_cons_eq_ite]
  | cons first rest ih =>
      obtain ⟨key, value⟩ := first
      rw [insertEntry]
      dsimp only
      split
      · rw [lookup_cons_eq_ite]
      · split
        · next same =>
            subst same
            rw [lookup_cons_eq_ite, lookup_cons_eq_ite]
            split <;> rfl
        · next different =>
            rw [lookup_cons_eq_ite, lookup_cons_eq_ite, ih]
            split
            · next same => rw [if_neg (same ▸ Ne.symm different)]
            · rfl

/-- What a mapping gives after an insertion. -/
theorem find?_insert (mapping : TableMapping) (entity table other : String) :
    (mapping.insert entity table).find? other =
      if other = entity then some table else mapping.find? other :=
  lookup_insertEntry entity table mapping.entries other

/-- Of entries for the same entity the last one counts. -/
theorem find?_ofList (entries : List (String × String)) (entity : String) :
    (ofList entries).find? entity = entries.reverse.lookup entity := by
  induction entries using List.reverseRecOn with
  | nil => rfl
  | append_singleton entries entry ih =>
      rw [ofList, List.foldl_append, List.foldl_cons, List.foldl_nil, ← ofList, find?_insert, ih,
        List.reverse_append, List.reverse_singleton, List.singleton_append, lookup_cons_eq_ite]

/-- Nothing is found for an entity that is less than all others. -/
theorem lookup_eq_none_of_lt {entity : String} {entries : List (String × String)}
    (least : ∀ entry ∈ entries, entity < entry.1) : entries.lookup entity = none := by
  rw [List.lookup_eq_none_iff]
  intro entry there
  rw [bne_iff_ne]
  rintro rfl
  exact String.lt_irrefl _ (least entry there)

/-- The first entity of sorted entries is not greater than that of others which know it. -/
theorem not_lt_of_lookup_eq {entry other : String × String}
    {entries others : List (String × String)} (least : ∀ later ∈ others, other.1 < later.1)
    (same : (entry :: entries).lookup entry.1 = (other :: others).lookup entry.1) :
    ¬ entry.1 < other.1 := by
  intro before
  have unknown : (other :: others).lookup entry.1 = none := by
    refine lookup_eq_none_of_lt fun later there => ?_
    rcases List.mem_cons.mp there with rfl | there
    · exact before
    · exact String.lt_trans before (least later there)
  rw [unknown, lookup_cons_eq_ite, if_pos rfl] at same
  cases same

/-- Sorted entries that give the same tables are the same. -/
theorem eq_of_lookup_eq {entries others : List (String × String)}
    (sorted : entries.Pairwise (·.1 < ·.1)) (others_sorted : others.Pairwise (·.1 < ·.1))
    (same : ∀ entity, entries.lookup entity = others.lookup entity) : entries = others := by
  induction entries generalizing others with
  | nil =>
      cases others with
      | nil => rfl
      | cons other others =>
          have found := same other.1
          rw [lookup_cons_eq_ite, if_pos rfl] at found
          cases found
  | cons entry entries ih =>
      obtain ⟨least, sorted⟩ := List.pairwise_cons.mp sorted
      cases others with
      | nil =>
          have found := same entry.1
          rw [lookup_cons_eq_ite, if_pos rfl] at found
          cases found
      | cons other others =>
          obtain ⟨others_least, others_sorted⟩ := List.pairwise_cons.mp others_sorted
          have key : entry.1 = other.1 := String.le_antisymm
            (String.not_lt.mp (not_lt_of_lookup_eq least (same other.1).symm))
            (String.not_lt.mp (not_lt_of_lookup_eq others_least (same entry.1)))
          have table : entry.2 = other.2 := by
            have found := same entry.1
            rw [lookup_cons_eq_ite, lookup_cons_eq_ite, if_pos rfl, if_pos key] at found
            exact Option.some.inj found
          have tail : entries = others := by
            refine ih sorted others_sorted fun entity => ?_
            by_cases first : entity = entry.1
            · rw [first, lookup_eq_none_of_lt least,
                lookup_eq_none_of_lt (key ▸ others_least)]
            · have found := same entity
              rwa [lookup_cons_eq_ite, lookup_cons_eq_ite, if_neg first,
                if_neg (key ▸ first)] at found
          rw [tail, Prod.ext key table]

/-- Mappings that give the same tables are the same. -/
theorem ext_find? {mapping other : TableMapping}
    (same : ∀ entity, mapping.find? entity = other.find? entity) : mapping = other := by
  obtain ⟨entries, sorted⟩ := mapping
  obtain ⟨others, others_sorted⟩ := other
  obtain rfl := eq_of_lookup_eq sorted others_sorted same
  rfl

/-- A mapping has been made of entries exactly if it gives each entity the table of the last
entry for it. -/
theorem eq_ofList_iff {mapping : TableMapping} {entries : List (String × String)} :
    mapping = ofList entries ↔
      ∀ entity, mapping.find? entity = entries.reverse.lookup entity := by
  simp only [← find?_ofList]
  exact ⟨fun same entity => same ▸ rfl, ext_find?⟩

end WhereClause.TableMapping
