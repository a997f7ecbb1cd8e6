/-
# Settings described by an object

What a JSON object says of settings: each member names a choice and writes it, and a choice
that no member names is the standard one. The order of the members does not enter into it.

The choices are of different types. `Entry.Choice` is the type of each, so that what holds of
all of them alike is said once.
-/

import WhereClause.Proofs.Json.Writing
import WhereClause.Settings.Draft

namespace WhereClause.Settings

open Json (Value)

/-! ### Choices -/

/-- What is chosen by a member. -/
def Entry.Choice : Entry → Type
  | .nestingLimit => UInt64
  | .lengthLimit => Option UInt64
  | .reservedWords => List String
  | .dialect => Dialect
  | .tables => TableMapping

/-- What the settings have chosen. -/
def choice (settings : Settings) : (entry : Entry) → entry.Choice
  | .nestingLimit => settings.nestingLimit
  | .lengthLimit => settings.lengthLimit
  | .reservedWords => settings.reservedWords
  | .dialect => settings.dialect
  | .tables => settings.tables

/-- Settings with the same choices are the same. -/
theorem ext_choice {settings other : Settings}
    (same : ∀ entry, settings.choice entry = other.choice entry) : settings = other := by
  cases settings
  cases other
  congr
  · exact same .nestingLimit
  · exact same .lengthLimit
  · exact same .reservedWords
  · exact same .dialect
  · exact same .tables

namespace Members

/-- The members with given choices. -/
def ofChoices (choices : (entry : Entry) → Option entry.Choice) : Members :=
  { nestingLimit := choices .nestingLimit
    lengthLimit := choices .lengthLimit
    reservedWords := choices .reservedWords
    dialect := choices .dialect
    tables := choices .tables }

variable (members : Members)

/-- What has been chosen so far. -/
def get : (entry : Entry) → Option entry.Choice
  | .nestingLimit => members.nestingLimit
  | .lengthLimit => members.lengthLimit
  | .reservedWords => members.reservedWords
  | .dialect => members.dialect
  | .tables => members.tables

/-- The members with one more choice. -/
def set : (entry : Entry) → entry.Choice → Members
  | .nestingLimit, limit => { members with nestingLimit := some limit }
  | .lengthLimit, limit => { members with lengthLimit := some limit }
  | .reservedWords, words => { members with reservedWords := some words }
  | .dialect, dialect => { members with dialect := some dialect }
  | .tables, tables => { members with tables := some tables }

theorem get_ofChoices (choices : (entry : Entry) → Option entry.Choice) (entry : Entry) :
    (ofChoices choices).get entry = choices entry := by
  cases entry <;> rfl

/-- Members with the same choices are the same. -/
theorem ext_get {members others : Members}
    (same : ∀ entry, members.get entry = others.get entry) : members = others := by
  cases members
  cases others
  congr
  · exact same .nestingLimit
  · exact same .lengthLimit
  · exact same .reservedWords
  · exact same .dialect
  · exact same .tables

@[simp] theorem get_empty (entry : Entry) : empty.get entry = none := by
  cases entry <;> rfl

@[simp] theorem get_set_self (entry : Entry) (choice : entry.Choice) :
    (members.set entry choice).get entry = some choice := by
  cases entry <;> rfl

theorem get_set_of_ne {entry other : Entry} (choice : entry.Choice) (different : other ≠ entry) :
    (members.set entry choice).get other = members.get other := by
  cases entry <;> cases other <;> first | rfl | exact absurd rfl different

/-- What is still to be chosen after a choice is another one that had not been made. -/
theorem of_get_set_eq_none {entry other : Entry} {choice : entry.Choice}
    (unmade : (members.set entry choice).get other = none) :
    other ≠ entry ∧ members.get other = none := by
  by_cases same : other = entry
  · subst same
    rw [get_set_self] at unmade
    cases unmade
  · exact ⟨same, get_set_of_ne members choice same ▸ unmade⟩

theorem has_eq_isSome_get (entry : Entry) : members.has entry = (members.get entry).isSome := by
  cases entry <;> rfl

/-- A choice that has not been made is the standard one. -/
theorem choice_settings (entry : Entry) :
    members.settings.choice entry = (members.get entry).getD (standard.choice entry) := by
  cases entry <;> rfl

end Members

/-! ### Descriptions -/

theorem Entry.key_injective {entry other : Entry} (same : entry.key = other.key) :
    entry = other := by
  have found := ofKey?_key entry
  rw [same, ofKey?_key] at found
  exact (Option.some.inj found).symm

/-- The value writes the choice. An absent length limit is written as null. A dialect is
written as its name, or as an object with its name for the one key and null. Of several tables
for an entity the last one counts. -/
def Entry.Writes : (entry : Entry) → entry.Choice → Value → Prop
  | .nestingLimit, limit, value => value.IsNatural limit
  | .lengthLimit, none, value => value = .null
  | .lengthLimit, some limit, value => value.IsNatural limit
  | .reservedWords, words, value => value = .array (words.map .string)
  | .dialect, chosen, value =>
    value = .string chosen.name ∨ value = .object [(chosen.name, .null)]
  | .tables, mapping, value =>
    ∃ entries : List (String × String),
      value = .object (entries.map fun entry => (entry.1, .string entry.2)) ∧
      ∀ entity, mapping.find? entity = entries.reverse.lookup entity

/-- The members of an object describe settings: no key comes twice, each is the key of a
choice and stands with a value that writes what was chosen, and what is not standard has been
described. -/
structure Describes (members : List (String × Value)) (settings : Settings) : Prop where
  once : (members.map Prod.fst).Nodup
  writes : ∀ member ∈ members, ∃ entry : Entry, member.1 = entry.key ∧
    entry.Writes (settings.choice entry) member.2
  complete : ∀ entry : Entry, entry.key ∉ members.map Prod.fst →
    settings.choice entry = standard.choice entry

/-! ### All settings can be described -/

/-- A value that writes a choice. -/
def Entry.value : (entry : Entry) → entry.Choice → Value
  | .nestingLimit, limit => .number (.ofNat limit.toNat)
  | .lengthLimit, none => .null
  | .lengthLimit, some limit => .number (.ofNat limit.toNat)
  | .reservedWords, words => .array (words.map .string)
  | .dialect, chosen => .string chosen.name
  | .tables, mapping => .object (mapping.entries.reverse.map fun entry => (entry.1, .string entry.2))

theorem Entry.writes_value (entry : Entry) (choice : entry.Choice) :
    entry.Writes choice (entry.value choice) := by
  cases entry with
  | nestingLimit => exact Json.isNatural_ofNat choice
  | lengthLimit =>
      cases choice with
      | none => rfl
      | some limit => exact Json.isNatural_ofNat limit
  | reservedWords => rfl
  | dialect => exact .inl rfl
  | tables => exact ⟨choice.entries.reverse, rfl, fun entity => by rw [List.reverse_reverse]; rfl⟩

/-- The members of an object for settings, one for each choice. -/
def members (settings : Settings) : List (String × Value) :=
  Entry.all.map fun entry => (entry.key, entry.value (settings.choice entry))

theorem describes_members (settings : Settings) : Describes settings.members settings where
  once := by
    have keys : settings.members.map Prod.fst = Entry.all.map Entry.key := by
      rw [members, List.map_map]
      rfl
    rw [keys]
    decide
  writes member there := by
    obtain ⟨entry, -, rfl⟩ := List.mem_map.mp there
    exact ⟨entry, rfl, entry.writes_value _⟩
  complete entry absent := by
    have listed : entry ∈ Entry.all := by cases entry <;> decide
    exact absurd (List.mem_map_of_mem (List.mem_map_of_mem listed)) absent

end WhereClause.Settings
