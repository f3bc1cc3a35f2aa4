import AssetExchange.Text.Blank
import Mathlib.Data.List.TakeWhile

/-!
# Text without blanks at its ends

Trimming takes blanks away from both ends of a text, and nothing else.  `trimBlanks_eq_iff`
says which texts are trimmed to a given one: those that are this text with blanks before and
after it, where the text itself neither begins nor ends with a blank (`Trimmed`).
-/

namespace AssetExchange
namespace Text

/-- Nothing but blanks. -/
def Blanks (characters : List Char) : Prop :=
  ∀ character ∈ characters, isBlank character = true

/-- No blank stands at either end. -/
structure Trimmed (characters : List Char) : Prop where
  head : ∀ character, characters.head? = some character → isBlank character = false
  last : ∀ character, characters.getLast? = some character → isBlank character = false

theorem trimmed_of_forall {characters : List Char}
    (visible : ∀ character ∈ characters, isBlank character = false) : Trimmed characters :=
  ⟨fun _ first => visible _ (List.mem_of_head? first),
    fun _ last => visible _ (List.mem_of_getLast? last)⟩

theorem Blanks.append {before after : List Char} (blanks : Blanks before)
    (others : Blanks after) : Blanks (before ++ after) := by
  intro character member
  rcases List.mem_append.1 member with earlier | later
  · exact blanks character earlier
  · exact others character later

theorem Blanks.reverse {characters : List Char} (blanks : Blanks characters) :
    Blanks characters.reverse :=
  fun character member => blanks character (List.mem_reverse.1 member)

theorem Trimmed.reverse {characters : List Char} (trimmed : Trimmed characters) :
    Trimmed characters.reverse := by
  constructor
  case head =>
    rw [List.head?_reverse]
    exact trimmed.last
  case last =>
    rw [List.getLast?_reverse]
    exact trimmed.head

/-- The blanks before a text that does not begin with a blank are those that are taken
away. -/
theorem dropWhile_blanks_append {before rest : List Char} (blanks : Blanks before)
    (stops : ∀ character, rest.head? = some character → isBlank character = false) :
    (before ++ rest).dropWhile isBlank = rest := by
  rw [List.dropWhile_append_of_pos blanks]
  cases rest with
  | nil =>
      rfl
  | cons first others =>
      rw [List.dropWhile_cons_of_neg (by rw [stops first rfl]; decide)]

/-- What is taken away at the beginning are blanks, up to something else. -/
theorem exists_blanks_dropWhile (characters : List Char) :
    ∃ before, Blanks before ∧ characters = before ++ characters.dropWhile isBlank ∧
      ∀ character, (characters.dropWhile isBlank).head? = some character →
        isBlank character = false := by
  refine ⟨characters.takeWhile isBlank, fun character member => ?_,
    List.takeWhile_append_dropWhile.symm, fun character first => ?_⟩
  · exact List.mem_takeWhile_imp member
  · have stops := List.head?_dropWhile_not isBlank characters
    rw [first] at stops
    simpa using stops

theorem trimBlanks_append {before core after : List Char} (blanks : Blanks before)
    (others : Blanks after) (trimmed : Trimmed core) :
    trimBlanks (before ++ core ++ after) = core := by
  rw [trimBlanks]
  cases core with
  | nil =>
      -- Without a core nothing separates the blanks at the two ends.
      have emptied : (before ++ after ++ []).dropWhile isBlank = [] :=
        dropWhile_blanks_append (blanks.append others) nofun
      rw [List.append_nil] at emptied ⊢
      rw [emptied]
      rfl
  | cons first rest =>
      have front : (before ++ (first :: rest ++ after)).dropWhile isBlank =
          first :: rest ++ after := dropWhile_blanks_append blanks trimmed.head
      rw [List.append_assoc, front, List.reverse_append,
        dropWhile_blanks_append others.reverse trimmed.reverse.head, List.reverse_reverse]

/-- A text is trimmed to what stands between the blanks at its ends. -/
theorem trimBlanks_eq_iff {characters core : List Char} :
    trimBlanks characters = core ↔
      Trimmed core ∧ ∃ before after, Blanks before ∧ Blanks after ∧
        characters = before ++ core ++ after := by
  constructor
  · rintro rfl
    obtain ⟨before, blanks, front, starts⟩ := exists_blanks_dropWhile characters
    obtain ⟨after, others, back, ends⟩ :=
      exists_blanks_dropWhile (characters.dropWhile isBlank).reverse
    have split : characters.dropWhile isBlank = trimBlanks characters ++ after.reverse := by
      rw [trimBlanks, ← List.reverse_append, ← back, List.reverse_reverse]
    refine ⟨⟨fun character first => ?_, fun character last => ?_⟩, before, after.reverse,
      blanks, others.reverse, ?_⟩
    · apply starts
      rw [split, List.head?_append, first, Option.some_or]
    · rw [trimBlanks, List.getLast?_reverse] at last
      exact ends character last
    · rw [List.append_assoc, ← split]
      exact front
  · rintro ⟨trimmed, before, after, blanks, others, rfl⟩
    exact trimBlanks_append blanks others trimmed

end Text
end AssetExchange
