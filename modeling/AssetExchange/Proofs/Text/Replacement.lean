import AssetExchange.Text.Piece
import Mathlib.Data.List.Infix

/-!
# Cutting and joining a text

`Stretches` says where a text is cut, without a word on how the cuts are found: before each
of them stands nothing that could have been cut earlier.  There is one way to cut a text
(`Stretches.unique`), and `pieces` finds it (`stretches_pieces`).

The second part is about the seams of what is joined again.  A separator could be put together
there from the end of a stretch, the text put in and the beginning of the next stretch.  It is
not if the text put in begins with a character that the separator does not have, and lacks the
first character of the separator (`not_infix_intercalate`).
-/

namespace AssetExchange
namespace Text

variable {separator text rest : List Char} {stretches others : List (List Char)}

/-! ## Stretches -/

/-- The stretches of a text between the occurrences of a separator that are found from left
to right, each one behind the one before. -/
inductive Stretches (separator : List Char) : List Char → List (List Char) → Prop
  | whole {text : List Char} (absent : ¬separator <:+: text) : Stretches separator text [text]
  | cut {text before rest : List Char} {stretches : List (List Char)}
      (split : text = before ++ separator ++ rest)
      (first : ∀ earlier later, text = earlier ++ separator ++ later →
        before.length ≤ earlier.length)
      (others : Stretches separator rest stretches) :
      Stretches separator text (before :: stretches)

namespace Stretches

theorem unique (found : Stretches separator text stretches)
    (other : Stretches separator text others) : others = stretches := by
  induction found generalizing others with
  | whole absent =>
      cases other with
      | whole _ =>
          rfl
      | cut split _ _ =>
          exact absurd ⟨_, _, split.symm⟩ absent
  | @cut text before rest stretches split first _ inductionHypothesis =>
      cases other with
      | whole absent =>
          exact absurd ⟨_, _, split.symm⟩ absent
      | @cut _ otherBefore otherRest _ otherSplit otherFirst otherStretches =>
          have sameLength : before.length = otherBefore.length :=
            Nat.le_antisymm (first _ _ otherSplit) (otherFirst _ _ split)
          rw [split, List.append_assoc, List.append_assoc] at otherSplit
          obtain ⟨sameBefore, sameAfter⟩ := List.append_inj otherSplit sameLength
          have sameRest : rest = otherRest := List.append_cancel_left sameAfter
          subst sameBefore sameRest
          rw [inductionHypothesis otherStretches]

/-- No stretch has the separator in it. -/
theorem not_infix (nonempty : separator ≠ []) (found : Stretches separator text stretches) :
    ∀ stretch ∈ stretches, ¬separator <:+: stretch := by
  induction found with
  | whole absent =>
      intro stretch member
      rw [List.mem_singleton.1 member]
      exact absent
  | @cut text before rest _ split first _ inductionHypothesis =>
      intro stretch member
      rcases List.mem_cons.1 member with rfl | later
      · rintro ⟨earlier, behind, within⟩
        have cutEarlier := first earlier (behind ++ separator ++ rest)
          (by rw [split, ← within]; simp only [List.append_assoc])
        have lengths := congrArg List.length within
        have positive := List.length_pos_of_ne_nil nonempty
        simp only [List.length_append] at lengths
        omega
      · exact inductionHypothesis stretch later

/-- A character in front of a text, where the separator does not begin, belongs to the first
stretch. -/
theorem extend {character : Char} (notHere : ¬separator <+: character :: rest)
    (found : Stretches separator rest stretches) :
    Stretches separator (character :: rest) (extendFirst character stretches) := by
  cases found with
  | whole absent =>
      apply Stretches.whole
      rw [List.infix_cons_iff]
      exact not_or.2 ⟨notHere, absent⟩
  | cut split first others =>
      refine Stretches.cut (by rw [split]; rfl) ?_ others
      intro earlier later same
      cases earlier with
      | nil =>
          exact absurd ⟨later, same.symm⟩ notHere
      | cons head tail =>
          have within := first tail later (List.cons.inj same).2
          simpa using within

end Stretches

theorem stretches_pieces (nonempty : separator ≠ []) (text : List Char) :
    Stretches separator text (pieces separator text) := by
  induction text using pieces.induct separator with
  | case1 =>
      rw [pieces]
      apply Stretches.whole
      rwa [List.infix_nil]
  | case2 character rest after begins shorter inductionHypothesis =>
      rw [pieces, begins]
      dsimp only
      rw [if_pos shorter]
      have split := (afterPrefix?_eq_some_iff separator (character :: rest) after).1 begins
      exact Stretches.cut split (fun _ _ _ => Nat.zero_le _) inductionHypothesis
  | case3 character rest after begins notShorter =>
      have split := (afterPrefix?_eq_some_iff separator (character :: rest) after).1 begins
      have lengths := congrArg List.length split
      have positive := List.length_pos_of_ne_nil nonempty
      simp only [List.length_cons, List.length_append] at lengths
      omega
  | case4 character rest elsewhere inductionHypothesis =>
      rw [pieces, elsewhere]
      apply inductionHypothesis.extend
      rintro ⟨after, split⟩
      have begins := (afterPrefix?_eq_some_iff separator (character :: rest) after).2 split.symm
      rw [elsewhere] at begins
      cases begins

theorem occurs_iff (part text : List Char) : occurs part text = true ↔ part <:+: text := by
  induction text with
  | nil =>
      rw [occurs, List.infix_nil, List.isEmpty_iff]
  | cons character rest inductionHypothesis =>
      have begins : (afterPrefix? part (character :: rest)).isSome = true ↔
          part <+: character :: rest := by
        rw [Option.isSome_iff_exists]
        exact exists_congr fun after =>
          (afterPrefix?_eq_some_iff part _ after).trans eq_comm
      rw [occurs, Bool.or_eq_true, begins, inductionHypothesis, List.infix_cons_iff]

/-! ## Seams -/

section Seams

variable {part before after : List Char} {mark slash : Char}

/-- What lacks a character does not reach over it. -/
theorem infix_or_infix_of_infix_append_cons (lacks : slash ∉ part)
    (found : part <:+: before ++ slash :: after) : part <:+: before ∨ part <:+: after := by
  have stops : ∀ beginning, slash ∉ beginning → beginning <+: slash :: after →
      beginning = [] := by
    intro beginning lacksHere begins
    rcases List.prefix_cons_iff.1 begins with empty | ⟨tail, rfl, _⟩
    · exact empty
    · exact absurd List.mem_cons_self lacksHere
  rcases List.infix_append_iff.1 found with inBefore | inAfter | ⟨left, right, rfl, ends, begins⟩
  · exact .inl inBefore
  · rcases List.infix_cons_iff.1 inAfter with here | later
    · rw [stops part lacks here]
      exact .inl List.nil_infix
    · exact .inr later
  · have lacksRight : slash ∉ right := fun member => lacks (List.mem_append_right left member)
    rw [stops right lacksRight begins, List.append_nil]
    exact .inl ends.isInfix

/-- What begins with a character does not begin where the character does not stand. -/
theorem infix_of_infix_append (lacks : mark ∉ before)
    (found : mark :: part <:+: before ++ after) : mark :: part <:+: after := by
  rcases List.infix_append_iff.1 found with inBefore | inAfter | ⟨left, right, split, ends, begins⟩
  · exact absurd (inBefore.subset List.mem_cons_self) lacks
  · exact inAfter
  · cases left with
    | nil =>
        rw [split]
        exact begins.isInfix
    | cons head tail =>
        cases (List.cons.inj split).1
        exact absurd (ends.subset List.mem_cons_self) lacks

/-- Stretches without a text stay without it when they are joined by one that begins with a
character of its own and lacks the first character of the text. -/
theorem not_infix_intercalate {tail : List Char} (lacksSlash : slash ∉ mark :: part)
    (lacksMark : mark ∉ tail)
    (absent : ∀ stretch ∈ stretches, ¬mark :: part <:+: stretch) :
    ¬mark :: part <:+: (slash :: tail).intercalate stretches := by
  induction stretches with
  | nil =>
      rw [List.intercalate_nil, List.infix_nil]
      exact List.cons_ne_nil _ _
  | cons stretch later inductionHypothesis =>
      obtain ⟨notHere, notLater⟩ := List.forall_mem_cons.1 absent
      cases later with
      | nil =>
          rw [List.intercalate_singleton]
          exact notHere
      | cons next behind =>
          rw [List.intercalate_cons_cons, List.append_assoc, List.cons_append]
          intro found
          rcases infix_or_infix_of_infix_append_cons lacksSlash found with here | joined
          · exact notHere here
          · exact inductionHypothesis notLater (infix_of_infix_append lacksMark joined)

end Seams

end Text
end AssetExchange
