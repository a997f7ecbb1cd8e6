/-
# Settings read from an object

A text that writes an object is read as settings exactly if the members of the object describe
them. In what order the members stand, where white space is put between them and how strings
and characters are escaped makes no difference, since a description does not know it. All other
objects are refused, among them those with a key of no choice and those with a key twice.
-/

import WhereClause.Proofs.Settings.Draft
import WhereClause.Settings.File

namespace WhereClause.Settings

open Json (Lexeme Value memberLexemes)

/-! ### Members of the object -/

/-- The member can stand behind the ones read so far, and with it these are the others. Its key
is that of a choice which has not been made, and its value writes one. -/
def Members.Takes (members : Members) (member : String × Value) (others : Members) : Prop :=
  ∃ (entry : Entry) (choice : entry.Choice), member.1 = entry.key ∧ members.get entry = none ∧
    entry.Writes choice member.2 ∧ others = members.set entry choice

namespace Draft

theorem stepKey_eq_ok_iff {draft next : Draft} {key : String} :
    draft.stepKey key = .ok next ↔ ∃ entry : Entry, key = entry.key ∧
      draft.members.get entry = none ∧ next = { draft with phase := .keyColon entry } := by
  unfold stepKey
  constructor
  · intro read
    split at read
    · cases read
    · next entry named =>
        split at read
        · cases read
        · next unmade =>
            rw [Members.has_eq_isSome_get, Bool.not_eq_true, Option.isSome_eq_false_iff,
              Option.isNone_iff_eq_none] at unmade
            exact ⟨entry, ofKey?_eq_some_iff.mp named, unmade, (Except.ok.inj read).symm⟩
  · rintro ⟨entry, rfl, unmade, rfl⟩
    have absent : draft.members.has entry = false := by
      rw [Members.has_eq_isSome_get, unmade, Option.isSome_none]
    simp [Entry.ofKey?_key, absent, expect]

theorem foldlM_member {members : Members} {closable : Bool} {member : String × Value}
    {next : Draft} :
    (memberLexemes member).foldlM step ⟨members, .keyed, .key closable⟩ = .ok next ↔
      ∃ others, members.Takes member others ∧ next = ⟨others, .keyed, .separator⟩ := by
  have key : step ⟨members, .keyed, .key closable⟩ (.string member.1) =
      stepKey ⟨members, .keyed, .key closable⟩ member.1 := rfl
  have colon (entry : Entry) : step ⟨members, .keyed, .keyColon entry⟩ .colon =
      .ok ⟨members, .keyed, .value entry⟩ := rfl
  rw [memberLexemes, foldlM_cons_eq_ok]
  simp only [key, stepKey_eq_ok_iff]
  constructor
  · rintro ⟨_, ⟨entry, named, unmade, rfl⟩, rest⟩
    rw [foldlM_cons_of_step (colon entry)] at rest
    obtain ⟨choice, writes, rfl⟩ := foldlM_value.mp rest
    exact ⟨_, ⟨entry, choice, named, unmade, writes, rfl⟩, rfl⟩
  · rintro ⟨_, ⟨entry, choice, named, unmade, writes, rfl⟩, rfl⟩
    refine ⟨_, ⟨entry, named, unmade, rfl⟩, ?_⟩
    rw [foldlM_cons_of_step (colon entry)]
    exact foldlM_value.mpr ⟨choice, writes, rfl⟩

theorem reads_members : Json.Reads step memberLexemes .closeBrace Members.Takes
    (fun members closable => ⟨members, .keyed, .key closable⟩)
    (fun members => ⟨members, .keyed, .separator⟩)
    (fun members => ⟨members, .keyed, .finished⟩) where
  item _ _ _ _ := foldlM_member
  last _ := rfl
  comma _ := rfl
  nothing _ := rfl

end Draft

/-- The settings of an object are those of the members that it makes one after another. -/
theorem ofLexemes_object {listed : List (String × Value)} {settings : Settings} :
    ofLexemes (Value.object listed).lexemes = .ok settings ↔
      ∃ members, Json.Chain Members.Takes .empty listed members ∧ members.settings = settings := by
  have opened : Draft.start.step .openBrace = .ok ⟨.empty, .keyed, .key true⟩ := rfl
  rw [ofLexemes, Value.lexemes_object, foldlM_cons_of_step opened, bind_eq_ok]
  simp only [Draft.reads_members.separated]
  constructor
  · rintro ⟨_, ⟨members, chain, rfl⟩, finished⟩
    exact ⟨members, chain, Except.ok.inj finished⟩
  · rintro ⟨members, chain, rfl⟩
    exact ⟨_, ⟨members, chain, rfl⟩, rfl⟩

/-! ### The order of the members -/

/-- What members of an object add to those read before, however they are ordered. -/
structure Members.Gains (members : Members) (listed : List (String × Value)) (all : Members) :
    Prop where
  once : (listed.map Prod.fst).Nodup
  made : ∀ member ∈ listed, ∃ (entry : Entry) (choice : entry.Choice), member.1 = entry.key ∧
    members.get entry = none ∧ entry.Writes choice member.2 ∧ all.get entry = some choice
  kept : ∀ entry : Entry, entry.key ∉ listed.map Prod.fst → all.get entry = members.get entry

section

variable {members all : Members} {member : String × Value} {listed : List (String × Value)}
  {entry : Entry} {choice : entry.Choice}

/-- A member that is taken comes before what is gained after it. -/
theorem Members.Gains.cons (gains : (members.set entry choice).Gains listed all)
    (named : member.1 = entry.key) (unmade : members.get entry = none)
    (writes : entry.Writes choice member.2) : members.Gains (member :: listed) all := by
  have absent : entry.key ∉ listed.map Prod.fst := by
    intro there
    obtain ⟨other, there, same⟩ := List.mem_map.mp there
    obtain ⟨entry', _, named', unmade', _⟩ := gains.made other there
    exact (of_get_set_eq_none _ unmade').1 (Entry.key_injective (named'.symm.trans same))
  refine ⟨List.nodup_cons.mpr ⟨named ▸ absent, gains.once⟩, fun other there => ?_,
    fun entry' absent' => ?_⟩
  · rcases List.mem_cons.mp there with rfl | there
    · refine ⟨entry, choice, named, unmade, writes, ?_⟩
      rw [gains.kept entry absent, get_set_self]
    · obtain ⟨entry', choice', named', unmade', writes', chosen⟩ := gains.made other there
      exact ⟨entry', choice', named', (of_get_set_eq_none _ unmade').2, writes', chosen⟩
  · rw [List.map_cons, List.mem_cons, not_or, named] at absent'
    have different : entry' ≠ entry := fun same => absent'.1 (congrArg Entry.key same)
    rw [gains.kept entry' absent'.2, get_set_of_ne _ _ different]

/-- What is gained after the first member has been taken. -/
theorem Members.Gains.tail (gains : members.Gains (member :: listed) all)
    (named : member.1 = entry.key) (chosen : all.get entry = some choice) :
    (members.set entry choice).Gains listed all := by
  obtain ⟨absent, once⟩ := List.nodup_cons.mp gains.once
  refine ⟨once, fun other there => ?_, fun entry' absent' => ?_⟩
  · obtain ⟨entry', choice', named', unmade', writes', chosen'⟩ :=
      gains.made other (List.mem_cons_of_mem _ there)
    have different : entry' ≠ entry := by
      rintro rfl
      exact absent (List.mem_map.mpr ⟨other, there, named'.trans named.symm⟩)
    exact ⟨entry', choice', named', (get_set_of_ne _ _ different).trans unmade', writes', chosen'⟩
  · by_cases same : entry' = entry
    · subst same
      rw [chosen, get_set_self]
    · rw [get_set_of_ne _ _ same]
      refine gains.kept entry' ?_
      rw [List.map_cons, List.mem_cons, not_or, named]
      exact ⟨fun key => same (Entry.key_injective key), absent'⟩

/-- Members that are taken one after another are those that are gained. -/
theorem chain_takes_iff :
    Json.Chain Members.Takes members listed all ↔ members.Gains listed all := by
  induction listed generalizing members with
  | nil =>
      rw [Json.chain_nil_iff]
      constructor
      · rintro rfl
        exact ⟨List.nodup_nil, by simp, fun _ _ => rfl⟩
      · intro gains
        exact Members.ext_get fun entry => gains.kept entry List.not_mem_nil
  | cons member listed ih =>
      simp only [Json.chain_cons_iff, ih]
      constructor
      · rintro ⟨_, ⟨entry, choice, named, unmade, writes, rfl⟩, gains⟩
        exact gains.cons named unmade writes
      · intro gains
        obtain ⟨entry, choice, named, unmade, writes, chosen⟩ :=
          gains.made member List.mem_cons_self
        exact ⟨_, ⟨entry, choice, named, unmade, writes, rfl⟩, gains.tail named chosen⟩

end

/-! ### The members and the settings -/

/-- The choices of settings that an object lists. -/
def Members.ofListed (listed : List (String × Value)) (settings : Settings) : Members :=
  .ofChoices fun entry =>
    if entry.key ∈ listed.map Prod.fst then some (settings.choice entry) else none

theorem Members.get_ofListed (listed : List (String × Value)) (settings : Settings)
    (entry : Entry) : (ofListed listed settings).get entry =
      if entry.key ∈ listed.map Prod.fst then some (settings.choice entry) else none :=
  get_ofChoices _ entry

/-- What a description adds to nothing is what it lists. -/
theorem Describes.gains {listed : List (String × Value)} {settings : Settings}
    (describes : Describes listed settings) :
    Members.empty.Gains listed (.ofListed listed settings) where
  once := describes.once
  made member there := by
    obtain ⟨entry, named, writes⟩ := describes.writes member there
    refine ⟨entry, settings.choice entry, named, Members.get_empty entry, writes, ?_⟩
    rw [Members.get_ofListed, if_pos (named ▸ List.mem_map_of_mem there)]
  kept entry absent := by rw [Members.get_ofListed, if_neg absent, Members.get_empty]

/-- What a description does not list is standard. -/
theorem Describes.settings_ofListed {listed : List (String × Value)} {settings : Settings}
    (describes : Describes listed settings) :
    (Members.ofListed listed settings).settings = settings := by
  refine ext_choice fun entry => ?_
  rw [Members.choice_settings, Members.get_ofListed]
  split
  · rfl
  · next absent => rw [Option.getD_none, describes.complete entry absent]

/-- The members that an object adds to none are those of the settings that it describes. -/
theorem exists_gains_iff_describes {listed : List (String × Value)} {settings : Settings} :
    (∃ all, Members.empty.Gains listed all ∧ all.settings = settings) ↔
      Describes listed settings := by
  constructor
  · rintro ⟨all, gains, rfl⟩
    refine ⟨gains.once, fun member there => ?_, fun entry absent => ?_⟩
    · obtain ⟨entry, choice, named, -, writes, chosen⟩ := gains.made member there
      refine ⟨entry, named, ?_⟩
      rwa [Members.choice_settings, chosen, Option.getD_some]
    · rw [Members.choice_settings, gains.kept entry absent, Members.get_empty, Option.getD_none]
  · intro describes
    exact ⟨_, describes.gains, describes.settings_ofListed⟩

/-! ### Texts -/

section

variable {listed : List (String × Value)} {text : String}

/-- How an object is written makes no difference to what is read. -/
theorem ofJson_eq_ofLexemes (spelled : Json.SpellsText (.object listed) text.toList) :
    ofJson text = ofLexemes (Value.object listed).lexemes := by
  rw [ofJson, Json.lexemes_of_spellsText spelled, ofLexemes,
    Json.foldlM_throughBroken Draft.step_broken, ← ofLexemes]

/-- A text that writes an object gives the settings that the object describes, and no others. -/
theorem ofJson_eq_ok_iff (spelled : Json.SpellsText (.object listed) text.toList)
    {settings : Settings} : ofJson text = .ok settings ↔ Describes listed settings := by
  rw [ofJson_eq_ofLexemes spelled, ofLexemes_object]
  simp only [chain_takes_iff, exists_gains_iff_describes]

/-! ### Keys that are refused -/

variable {others : List (String × Value)} {key : String} {value : Value} {settings : Settings}

/-- The first key that cannot be taken is complained of, whatever comes behind it. -/
theorem ofJson_eq_error_of_key {fault : Fault}
    (spelled : Json.SpellsText (.object (listed ++ (key, value) :: others)) text.toList)
    (describes : Describes listed settings)
    (refused : ∀ closable, Draft.stepKey
      ⟨.ofListed listed settings, .keyed, .key closable⟩ key = .error fault) :
    ofJson text = .error fault := by
  have opened : Draft.start.step .openBrace = .ok ⟨.empty, .keyed, .key true⟩ := rfl
  obtain ⟨taken, left, closable, cut, read⟩ := Draft.reads_members.toItem
    (chain_takes_iff.mpr describes.gains) (key, value) others
  have stops : Draft.step ⟨.ofListed listed settings, .keyed, .key closable⟩ (.string key) =
      .error fault := refused closable
  rw [ofJson_eq_ofLexemes spelled, ofLexemes, Value.lexemes_object, foldlM_cons_of_step opened,
    cut, memberLexemes, List.append_assoc, foldlM_append_of_steps read, List.cons_append,
    List.cons_append, foldlM_cons_of_fault stops]
  rfl

/-- A key of no choice is named. -/
theorem ofJson_unknownKey
    (spelled : Json.SpellsText (.object (listed ++ (key, value) :: others)) text.toList)
    (describes : Describes listed settings) (unknown : ∀ entry : Entry, key ≠ entry.key) :
    ofJson text = .error (.unknownKey key) := by
  refine ofJson_eq_error_of_key spelled describes fun closable => ?_
  have unfound : Entry.ofKey? key = none := by
    rw [Option.eq_none_iff_forall_ne_some]
    exact fun entry found => unknown entry (Draft.ofKey?_eq_some_iff.mp found)
  rw [Draft.stepKey, unfound]

/-- So is a choice that comes twice. -/
theorem ofJson_repeatedEntry {entry : Entry}
    (spelled : Json.SpellsText (.object (listed ++ (entry.key, value) :: others)) text.toList)
    (describes : Describes listed settings) (there : entry.key ∈ listed.map Prod.fst) :
    ofJson text = .error (.repeatedEntry entry) := by
  refine ofJson_eq_error_of_key spelled describes fun closable => ?_
  have made : (Members.ofListed listed settings).has entry = true := by
    rw [Members.has_eq_isSome_get, Members.get_ofListed, if_pos there, Option.isSome_some]
  simp only [Draft.stepKey, Entry.ofKey?_key, made, if_true]

end

/-! ### Texts in programs -/

theorem ofText_eq_ok_iff {text : String} {settings : Settings} :
    ofText text = .ok settings ↔ ofJson text = .ok settings := by
  rw [ofText, Settings.read]
  cases ofJson text <;> simp [Except.mapError]

/-- What is wrong with a text is reported with its origin. -/
theorem ofText_eq_error_iff {text : String} {fault : Fault} :
    ofText text = .error (.notUnderstood "<inline>" fault) ↔ ofJson text = .error fault := by
  rw [ofText, Settings.read]
  cases ofJson text <;> simp [Except.mapError]

/-- No settings are out of reach: for all of them there is a text that gives them. -/
theorem exists_text (settings : Settings) : ∃ text, ofText text = .ok settings := by
  obtain ⟨letters, spelled⟩ := (Value.object settings.members).exists_spells
  have whole : Json.SpellsText (.object settings.members) (String.ofList letters).toList := by
    have padded := Json.SpellsText.text Json.isSpaces_nil spelled Json.isSpaces_nil
    rwa [List.nil_append, List.append_nil, ← String.toList_ofList (l := letters)] at padded
  exact ⟨_, ofText_eq_ok_iff.mpr ((ofJson_eq_ok_iff whole).mpr settings.describes_members)⟩

/-- Settings are read from the text of an object exactly if the object describes them, in any
order of the members and however it is written. An object with a key of no choice, or with a
key twice, is not understood. -/
theorem ofText_reads_object {listed : List (String × Value)} {text : String}
    (spelled : Json.SpellsText (.object listed) text.toList) :
    (∀ settings, ofText text = .ok settings ↔ Describes listed settings) ∧
    ((∃ member ∈ listed, ∀ entry : Entry, member.1 ≠ entry.key) ∨
        ¬ (listed.map Prod.fst).Nodup →
      ∃ fault, ofText text = .error (.notUnderstood "<inline>" fault)) := by
  have read (settings : Settings) : ofText text = .ok settings ↔ Describes listed settings :=
    ofText_eq_ok_iff.trans (ofJson_eq_ok_iff spelled)
  refine ⟨read, fun unfit => ?_⟩
  cases outcome : ofJson text with
  | error fault => exact ⟨fault, ofText_eq_error_iff.mpr outcome⟩
  | ok settings =>
      have describes := (ofJson_eq_ok_iff spelled).mp outcome
      rcases unfit with ⟨member, there, unknown⟩ | twice
      · obtain ⟨entry, named, -⟩ := describes.writes member there
        exact absurd named (unknown entry)
      · exact absurd describes.once twice

/-- The members stand in another order than the choices, with white space between them, and a
letter of the dialect is escaped. The other text has a key of no choice. -/
theorem ofText_reads_object_reordered :
    ofText "\x7b\"dialect\" : \"m\\u0079sql\",\n\"max_filter_length\":64\x7d" =
        .ok { standard with dialect := .mysql, lengthLimit := some 64 } ∧
      ∃ fault, ofText "\x7b\"max_depth\":3\x7d" = .error (.notUnderstood "<inline>" fault) := by
  have nothing := Json.isSpaces_nil
  have space : Json.IsSpaces [' '] := by simp [Json.IsSpaces]
  have feed : Json.IsSpaces ['\n'] := by simp [Json.IsSpaces]
  have escaped : Json.SpellsString "mysql" "\"m\\u0079sql\"".toList := by
    have number : Json.SpellsUnit 'y'.toNat "\\u0079".toList :=
      .escape (Json.isHexDigit_digitChar (by decide : 0 < 16))
        (Json.isHexDigit_digitChar (by decide : 0 < 16))
        (Json.isHexDigit_digitChar (by decide : 7 < 16))
        (Json.isHexDigit_digitChar (by decide : 9 < 16))
    have first : Json.SpellsChar 'm' ['m'] := .plain (by decide) (by decide) (by decide)
    have second : Json.SpellsChar 'y' "\\u0079".toList := number.spellsChar (by decide)
    have others : Json.SpellsChars "sql".toList "sql".toList := Json.spellsChars_self rfl
    have body : Json.SpellsChars "mysql".toList "m\\u0079sql".toList :=
      .cons first (.cons second others)
    exact .quoted body
  have dialect : Json.SpellsMember Value.Spells ("dialect", .string "mysql")
      "\"dialect\" : \"m\\u0079sql\"".toList :=
    .member (Json.spellsString_self rfl) space space (.string escaped)
  have limit : Json.SpellsMember Value.Spells ("max_filter_length", .number (.ofNat 64))
      "\"max_filter_length\":64".toList :=
    .member (Json.spellsString_self rfl) nothing nothing (.number (.ofNat 64))
  have depth : Json.SpellsMember Value.Spells ("max_depth", .number (.ofNat 3))
      "\"max_depth\":3".toList :=
    .member (Json.spellsString_self rfl) nothing nothing (.number (.ofNat 3))
  have reordered : Json.SpellsText
      (.object [("dialect", .string "mysql"), ("max_filter_length", .number (.ofNat 64))])
      "\x7b\"dialect\" : \"m\\u0079sql\",\n\"max_filter_length\":64\x7d".toList :=
    .text nothing (.object (.more nothing dialect nothing (by simp)
      (.last feed limit nothing))) nothing
  have unknown : Json.SpellsText (.object [("max_depth", .number (.ofNat 3))])
      "\x7b\"max_depth\":3\x7d".toList :=
    .text nothing (.object (.last nothing depth nothing)) nothing
  have describes : Describes
      [("dialect", .string "mysql"), ("max_filter_length", .number (.ofNat 64))]
      { standard with dialect := .mysql, lengthLimit := some 64 } := by
    refine ⟨by decide, fun member there => ?_, fun entry absent => ?_⟩
    · rcases List.mem_pair.mp there with rfl | rfl
      · exact ⟨.dialect, rfl, .inl rfl⟩
      · exact ⟨.lengthLimit, rfl, Json.isNatural_ofNat 64⟩
    · cases entry <;> first | rfl | exact absurd (by decide) absent
  exact ⟨((ofText_reads_object reordered).1 _).mpr describes,
    (ofText_reads_object unknown).2
      (.inl ⟨_, List.mem_singleton_self _, fun entry => by cases entry <;> decide⟩)⟩

end WhereClause.Settings
