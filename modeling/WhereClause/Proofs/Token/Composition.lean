/-
# Cutting two texts put together

A text that can be cut into tokens may be put in front of any other. The tokens of the two
together are those of the one and then those of the other, which move by the length of the
first; and if the second text has a string that is not closed, the two together have that string,
moved in the same way.

Two things stand in the way of this and no others: a word that meets a word and a string that
meets a string. They are real exceptions. Where one of them occurs, the tokens of two texts are
never the tokens of the text that they make up. Of a string that is not closed this is not
claimed, since it may stand so far behind that it is not touched.
-/

import WhereClause.Proofs.Token.Boundary

namespace WhereClause

/-- The report, if the text that it is about has some bytes more in front. -/
def UnclosedString.moved (distance : Nat) (error : UnclosedString) : UnclosedString :=
  { span := ⟨distance + error.span.start, distance + error.span.stop⟩ }

namespace Lexer

section Composition

variable {front back : List Char} {tokens more : List Token}

/-- Where each of two texts is cut into tokens by itself, there is a seam between them. -/
theorem Cuts.seam_of_append (first : Cuts [] 0 front tokens)
    (both : Cuts [] 0 (front ++ back) (tokens ++ more.map (Token.moved (utf8Length front)))) :
    Seam front back := by
  obtain ⟨before, _, -, cuts, -⟩ := both.divide rfl fun token there => by
    rw [Nat.zero_add]
    rcases List.mem_append.mp there with ahead | behind
    · left
      obtain ⟨start, slice, after, same, place, -⟩ := first.slice_of_mem token ahead
      have stop : token.span.stop = utf8Length (start ++ slice) := by
        rw [place]
        exact Nat.zero_add _
      rw [stop, same, utf8Length_append (start ++ slice)]
      exact Nat.le_add_right _ _
    · right
      obtain ⟨other, -, rfl⟩ := List.mem_map.mp behind
      exact Nat.le_add_right _ _
  have seam := cuts.seam
  rwa [List.append_nil] at seam

end Composition

/-- The text that two texts make up has the tokens of the one and then those of the other, moved
by the length of the first, exactly if no token at the end of the first goes on in the second.
In that case the two have a string that is not closed if the second has one, moved likewise. -/
theorem tokenize_append {front : String} {tokens : List Token}
    (cut : tokenize front = .ok tokens) (back : String) :
    (∀ more, tokenize back = .ok more →
      (tokenize (front ++ back) = .ok (tokens ++ more.map (Token.moved front.utf8ByteSize)) ↔
        Seam front.toList back.toList)) ∧
    ∀ error, tokenize back = .error error → Seam front.toList back.toList →
      tokenize (front ++ back) = .error (error.moved front.utf8ByteSize) := by
  have first := tokenize_eq_ok_iff_cuts.mp cut
  refine ⟨fun more cut' => ?_, fun error failed seam => ?_⟩
  · have second := tokenize_eq_ok_iff_cuts.mp cut'
    rw [tokenize_eq_ok_iff_cuts, String.toList_append, ← utf8Length_toList]
    refine ⟨first.seam_of_append, fun seam => first.compose second ?_⟩
    rwa [List.append_nil]
  · obtain ⟨before, rest, more, same, rfl | unclosed, second⟩ := exists_cuts back.toList 0
    · rw [List.append_nil] at same
      rw [← same] at second
      rw [second.tokenize] at failed
      cases failed
    · rw [unclosed.tokenize same second] at failed
      obtain rfl := Except.error.inj failed
      have both := first.compose second (by rwa [← same])
      rw [unclosed.tokenize (by rw [String.toList_append, same, List.append_assoc]) both]
      simp only [UnclosedString.moved, String.toList_append, utf8Length_append, utf8Length_toList]

/-- Behind a word that touches a string another word may begin, and so may, after a space, a
string that is not closed. A second string may not. -/
theorem tokenize_append_touching :
    tokenize "é'ä'" = .ok [⟨.identifier, "é", ⟨0, 2⟩⟩, ⟨.string, "'ä'", ⟨2, 6⟩⟩] ∧
      tokenize "in(" = .ok [⟨.membership, "in", ⟨0, 2⟩⟩, ⟨.opening, "(", ⟨2, 3⟩⟩] ∧
      tokenize "é'ä'in(" = .ok [⟨.identifier, "é", ⟨0, 2⟩⟩, ⟨.string, "'ä'", ⟨2, 6⟩⟩,
        ⟨.membership, "in", ⟨6, 8⟩⟩, ⟨.opening, "(", ⟨8, 9⟩⟩] ∧
      tokenize " 'b" = .error ⟨⟨1, 3⟩⟩ ∧ tokenize "é'ä' 'b" = .error ⟨⟨7, 9⟩⟩ ∧
      tokenize "'b'" = .ok [⟨.string, "'b'", ⟨0, 3⟩⟩] ∧
      tokenize "é'ä''b'" ≠ .ok [⟨.identifier, "é", ⟨0, 2⟩⟩, ⟨.string, "'ä'", ⟨2, 6⟩⟩,
        ⟨.string, "'b'", ⟨6, 9⟩⟩] := by
  have name : Spells (wordKind "é") "é".toList "é".toList "'ä'".toList :=
    .word (by decide) (Text.forall_mem_of_all rfl) (stops_cons rfl _)
  have membership : Spells (wordKind "in") "in".toList "in".toList "(".toList :=
    .word (by decide) (Text.forall_mem_of_all rfl) (stops_cons rfl _)
  have cuts : Cuts [] 0 "é'ä'".toList
      [⟨.identifier, "é", ⟨0, 2⟩⟩, ⟨.string, "'ä'", ⟨2, 6⟩⟩] :=
    .spelled name <| .spelled (.string "ä".toList (by decide)) (.done _)
  have cuts' : Cuts [] 0 "in(".toList
      [⟨.membership, "in", ⟨0, 2⟩⟩, ⟨.opening, "(", ⟨2, 3⟩⟩] :=
    .spelled membership <| .spelled (.punctuation _ rfl) (.done _)
  have cuts'' : Cuts [] 0 "'b'".toList [⟨.string, "'b'", ⟨0, 3⟩⟩] :=
    .spelled (.string "b".toList (by decide)) (.done _)
  have unclosed : Unclosed "'b".toList := unclosed_cons_iff.mpr rfl
  have spaced : Cuts "'b".toList 0 " ".toList [] := .blank rfl (.done _)
  have failed : tokenize " 'b" = .error ⟨⟨1, 3⟩⟩ := unclosed.tokenize rfl spaced
  have together := tokenize_append cuts.tokenize
  refine ⟨cuts.tokenize, cuts'.tokenize, ?_, failed, ?_, cuts''.tokenize, ?_⟩
  · exact ((together "in(").1 _ cuts'.tokenize).mpr (by decide)
  · exact (together " 'b").2 _ failed (by decide)
  · intro both
    have seam := ((together "'b'").1 _ cuts''.tokenize).mp both
    exact (seam '\'' rfl '\'' rfl).2 rfl rfl

end Lexer

end WhereClause
