/-!
# Pieces of a text

`pieces` cuts a text at the occurrences of a separator, found from left to right
without overlap, and `replaceAll` joins the pieces by another text. The text put
in is never searched again.
-/

namespace AssetExchange
namespace Text

/-- What follows a given beginning, if the text has it. -/
def afterPrefix? : List Char → List Char → Option (List Char)
  | [], text => some text
  | _ :: _, [] => none
  | expected :: more, character :: rest =>
      if expected = character then afterPrefix? more rest else none

/-- Puts a character in front of the first piece. -/
def extendFirst (character : Char) : List (List Char) → List (List Char)
  | [] => [[character]]
  | piece :: rest => (character :: piece) :: rest

theorem afterPrefix?_eq_some_iff (expected text rest : List Char) :
    afterPrefix? expected text = some rest ↔ text = expected ++ rest := by
  induction expected generalizing text with
  | nil => simp [afterPrefix?]
  | cons head tail inductionHypothesis =>
      cases text with
      | nil => simp [afterPrefix?]
      | cons character others =>
          simp only [afterPrefix?, List.cons_append, List.cons.injEq]
          split
          · rename_i same
            simp [inductionHypothesis, same]
          · rename_i different
            simp [Ne.symm different]

/-- The stretches between successive occurrences of the separator. A text without
an occurrence is one piece. -/
def pieces (separator : List Char) (text : List Char) : List (List Char) :=
  match text with
  | [] => [[]]
  | character :: rest =>
      match afterPrefix? separator (character :: rest) with
      | some after =>
          if after.length < rest.length + 1 then [] :: pieces separator after
          else extendFirst character (pieces separator rest)
      | none => extendFirst character (pieces separator rest)
termination_by text.length

def replaceAll (separator replacement text : List Char) : List Char :=
  replacement.intercalate (pieces separator text)

def occurs (part : List Char) : List Char → Bool
  | [] => part.isEmpty
  | character :: rest =>
      (afterPrefix? part (character :: rest)).isSome || occurs part rest

def startsWith (text beginning : String) : Bool :=
  (afterPrefix? beginning.toList text.toList).isSome

/-- ASCII capitals become small letters; everything else stays. -/
def lowerAscii (text : String) : String :=
  String.ofList (text.toList.map Char.toLower)

theorem startsWith_iff (text beginning : String) :
    startsWith text beginning = true ↔ beginning.toList <+: text.toList := by
  rw [startsWith, Option.isSome_iff_exists]
  exact exists_congr fun rest =>
    (afterPrefix?_eq_some_iff _ _ rest).trans eq_comm

end Text
end AssetExchange
