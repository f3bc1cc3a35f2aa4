import AssetExchange.Toml.Printer

/-!
# Strings in configuration files

Strings and keys are read back from the text in which they are written, whichever form it
takes (`readText_renderText`, `readSimpleKey_renderKey`).

A character is spelled by itself, by a short form or by its code point (`Spelling`), and both
readers of strings with escapes undo every spelling.  In a string of several lines quotes may
stand for themselves; those that the reader has not passed over yet are carried along
(`readLines_escapeLines`), since three in a row would end the string.
-/

namespace AssetExchange
namespace Toml

/-! ## Spellings of a character -/

/-- The ways to write a character other than the quote inside a string with escapes. -/
inductive Spelling : List Char → Char → Prop
  | plain {character : Char} (literal : Text.isLiteral character = true)
      (notQuote : character ≠ '"') (notBackslash : character ≠ '\\') :
      Spelling [character] character
  | short {form character : Char} (known : Text.ofShortForm? form = some character) :
      Spelling ['\\', form] character
  | code {first second third fourth character : Char}
      (known : Text.ofHexDigits? [first, second, third, fourth] = some character) :
      Spelling ['\\', 'u', first, second, third, fourth] character

def prepend (character : Char) (read : List Char × List Char) : List Char × List Char :=
  (character :: read.1, read.2)

section Spellings

variable {text rest : List Char} {character : Char}

theorem ne_of_isLiteral (literal : Text.isLiteral character = true) :
    character ≠ '\n' ∧ character ≠ '\r' := by
  constructor
  · rintro rfl
    revert literal
    decide
  · rintro rfl
    revert literal
    decide

theorem Spelling.exists_cons (spelling : Spelling text character) :
    ∃ first others, text = first :: others ∧ first ≠ '"' ∧ first ≠ '\n' ∧ first ≠ '\r' := by
  cases spelling with
  | plain literal notQuote notBackslash =>
      obtain ⟨notEnd, notReturn⟩ := ne_of_isLiteral literal
      exact ⟨character, [], rfl, notQuote, notEnd, notReturn⟩
  | short known =>
      exact ⟨_, _, rfl, by decide, by decide, by decide⟩
  | code known =>
      exact ⟨_, _, rfl, by decide, by decide, by decide⟩

/-- No short form is a letter that introduces a code point, or a blank. -/
theorem ne_of_ofShortForm? {form : Char} (known : Text.ofShortForm? form = some character) :
    form ≠ 'u' ∧ form ≠ 'U' ∧ form ≠ '\n' ∧ form ≠ '\r' ∧ isBlank form = false := by
  unfold Text.ofShortForm? at known
  split at known
  all_goals cases known
  all_goals decide

theorem readEscaped_spelling (spelling : Spelling text character) (rest : List Char) :
    Text.readEscaped (text ++ rest) = (Text.readEscaped rest).map (prepend character) := by
  cases spelling with
  | plain literal notQuote notBackslash =>
      rw [List.singleton_append, Text.readEscaped]
      · rw [if_pos literal]
        cases Text.readEscaped rest <;> rfl
      · exact notQuote
      · intro _ _ _ _ _ same
        exact absurd same notBackslash
      · intro _ _ _ _ _ _ _ _ _ same
        exact absurd same notBackslash
      · intro _ _ same
        exact absurd same notBackslash
  | short known =>
      obtain ⟨notSmall, notCapital, _⟩ := ne_of_ofShortForm? known
      rw [List.cons_append, List.singleton_append, Text.readEscaped, known]
      · cases Text.readEscaped rest <;> rfl
      · intro _ _ _ _ _ same
        exact absurd same notSmall
      · intro _ _ _ _ _ _ _ _ _ same
        exact absurd same notCapital
  | code known =>
      simp only [List.cons_append, List.nil_append]
      rw [Text.readEscaped, known]
      cases Text.readEscaped rest <;> rfl

theorem readLines_spelling (spelling : Spelling text character) (rest : List Char) :
    readLines false (text ++ rest) = (readLines false rest).map (prepend character) := by
  cases spelling with
  | plain literal notQuote notBackslash =>
      obtain ⟨notEnd, notReturn⟩ := ne_of_isLiteral literal
      rw [List.singleton_append, readLines]
      · rw [Bool.false_and, if_neg Bool.false_ne_true, if_pos literal]
        rfl
      · intro _ same
        exact absurd same notQuote
      · intro _ _ _ _ _ same
        exact absurd same notBackslash
      · intro _ _ _ _ _ _ _ _ _ same
        exact absurd same notBackslash
      · intro _ _ same
        exact absurd same notBackslash
      · exact notEnd
      · intro _ same
        exact absurd same notReturn
  | short known =>
      obtain ⟨notSmall, notCapital, notEnd, notReturn, notBlank⟩ := ne_of_ofShortForm? known
      rw [List.cons_append, List.singleton_append, readLines, known]
      · rw [if_neg notEnd, notBlank, decide_eq_false notReturn]
        cases readLines false rest <;> rfl
      · intro _ _ _ _ _ same
        exact absurd same notSmall
      · intro _ _ _ _ _ _ _ _ _ same
        exact absurd same notCapital
  | code known =>
      simp only [List.cons_append, List.nil_append]
      rw [readLines, known]
      cases readLines false rest <;> rfl

end Spellings

/-! ## Escapes -/

/-- The code point of every ASCII character is read back from its four digits. -/
theorem exists_hexText {code : Nat} (small : code < 128) :
    ∃ first second third fourth, hexText code = [first, second, third, fourth] ∧
      Text.ofHexDigits? [first, second, third, fourth] = some (Char.ofNat code) := by
  have enumerated : ∀ code < 128, (hexText code).length = 4 ∧
      Text.ofHexDigits? (hexText code) = some (Char.ofNat code) := by
    decide +kernel
  obtain ⟨length, known⟩ := enumerated code small
  generalize hexText code = digits at length known ⊢
  match digits, length with
  | [first, second, third, fourth], _ => exact ⟨first, second, third, fourth, rfl, known⟩

theorem lt_of_needsEscape {character : Char} (needed : needsEscape character = true) :
    character.toNat < 128 := by
  unfold needsEscape Text.isLiteral at needed
  simp only [Bool.and_eq_true, Bool.not_eq_true', Bool.or_eq_false_iff, Bool.and_eq_false_iff,
    decide_eq_false_iff_not, bne_eq_false_iff_eq] at needed
  omega

theorem spelling_of_escape? {character : Char} {text : List Char}
    (escaped : escape? character = some text) : Spelling text character := by
  unfold escape? at escaped
  split at escaped
  · cases escaped
    exact .short rfl
  · cases escaped
    exact .short rfl
  · cases escaped
    exact .short rfl
  · cases escaped
    exact .short rfl
  · cases escaped
    exact .short rfl
  · split at escaped
    · rename_i needed
      cases escaped
      obtain ⟨first, second, third, fourth, digits, known⟩ :=
        exists_hexText (lt_of_needsEscape needed)
      rw [digits]
      rw [Char.ofNat_toNat] at known
      exact .code known
    · cases escaped

theorem spelling_of_not_escaped {character : Char} (plain : escape? character = none)
    (notQuote : character ≠ '"') (notEnd : character ≠ '\n') : Spelling [character] character := by
  have notBackslash : character ≠ '\\' := by
    rintro rfl
    cases plain
  cases literal : Text.isLiteral character with
  | true =>
      exact .plain literal notQuote notBackslash
  | false =>
      have needed : needsEscape character = true := by
        rw [needsEscape, literal, bne_iff_ne.2 notEnd]
        rfl
      unfold escape? at plain
      split at plain
      all_goals first | cases plain | (rw [if_pos needed] at plain; cases plain)

theorem spelling_escape {character : Char} (notQuote : character ≠ '"')
    (notEnd : character ≠ '\n') :
    Spelling ((escape? character).getD [character]) character := by
  cases escaped : escape? character with
  | none =>
      exact spelling_of_not_escaped escaped notQuote notEnd
  | some text =>
      exact spelling_of_escape? escaped

/-! ## Strings on one line -/

section Line

variable {characters rest : List Char}

theorem spelling_escapeLine (character : Char) :
    Spelling (if character = '"' then ['\\', '"']
      else if character = '\n' then ['\\', 'n']
      else (escape? character).getD [character]) character := by
  split
  · rename_i same
    subst same
    exact .short rfl
  · rename_i notQuote
    split
    · rename_i same
      subst same
      exact .short rfl
    · rename_i notEnd
      exact spelling_escape notQuote notEnd

theorem exists_escapeLine (character : Char) (others : List Char) :
    ∃ first following, escapeLine (character :: others) = first :: following ∧ first ≠ '"' := by
  obtain ⟨first, following, same, notQuote, _⟩ := (spelling_escapeLine character).exists_cons
  refine ⟨first, following ++ escapeLine others, ?_, notQuote⟩
  rw [escapeLine, List.flatMap_cons, same]
  rfl

theorem readEscaped_escapeLine (characters rest : List Char) :
    Text.readEscaped (escapeLine characters ++ '"' :: rest) = some (characters, rest) := by
  induction characters with
  | nil =>
      rfl
  | cons character others inductionHypothesis =>
      unfold escapeLine at inductionHypothesis ⊢
      rw [List.flatMap_cons, List.append_assoc,
        readEscaped_spelling (spelling_escapeLine character), inductionHypothesis]
      rfl

theorem readLineText_line (characters rest : List Char) :
    readLineText (writeText characters .line ++ rest) =
      some (String.ofList characters, rest) := by
  have read := readEscaped_escapeLine characters rest
  simp only [writeText, List.cons_append, List.append_assoc, List.nil_append, readLineText, read,
    Option.map_some]

theorem readLineText_literal
    (plain : ∀ character ∈ characters, character ≠ '\'' ∧ Text.isLiteral character = true)
    (rest : List Char) :
    readLineText (writeText characters .literal ++ rest) =
      some (String.ofList characters, rest) := by
  have all : ∀ character ∈ characters,
      (character != '\'' && Text.isLiteral character) = true := by
    intro character member
    rw [Bool.and_eq_true, bne_iff_ne]
    exact plain character member
  have read : readLiteral (characters ++ '\'' :: rest) = some (characters, rest) := by
    unfold readLiteral
    dsimp only
    rw [List.dropWhile_append_of_pos all, List.takeWhile_append_of_pos all]
    simp
  simp only [writeText, List.cons_append, List.append_assoc, List.nil_append, readLineText, read,
    Option.map_some]

end Line

/-! ## Strings on several lines -/

section Lines

variable {characters rest : List Char}

theorem extraQuotes_replicate {quote next : Char} {quotes : Nat} (few : quotes ≤ 2)
    (notQuote : next ≠ quote) (rest : List Char) :
    extraQuotes quote (List.replicate quotes quote ++ next :: rest) =
      (List.replicate quotes quote, next :: rest) := by
  match quotes, few with
  | 0, _ => cases rest <;> simp [extraQuotes, notQuote]
  | 1, _ => simp [extraQuotes, notQuote, List.replicate]
  | 2, _ => simp [extraQuotes, List.replicate]

/-- A reader that takes a quote for a part of the string, unless it ends the string. -/
def PassesQuote (quote : Char) (read : List Char → Option (List Char × List Char)) : Prop :=
  ∀ following, (∀ others, following ≠ quote :: quote :: others) →
    read (quote :: following) = (read following).map (prepend quote)

/-- A few quotes that do not end a string are part of it. -/
theorem PassesQuote.replicate {quote next : Char}
    {read : List Char → Option (List Char × List Char)} (passes : PassesQuote quote read)
    {quotes : Nat} (few : quotes ≤ 2) (notQuote : next ≠ quote) (rest : List Char) :
    read (List.replicate quotes quote ++ next :: rest) =
      (read (next :: rest)).map
        fun found => (List.replicate quotes quote ++ found.1, found.2) := by
  have different : ∀ others, next :: rest ≠ quote :: others := by
    intro others same
    exact notQuote (List.cons.inj same).1
  match quotes, few with
  | 0, _ =>
      exact Option.map_id'.symm
  | 1, _ =>
      exact passes (next :: rest) fun others => different (quote :: others)
  | 2, _ =>
      have second := passes (next :: rest) fun others => different (quote :: others)
      have first := passes (quote :: next :: rest) fun others same =>
        different others (List.cons.inj same).2
      rw [second, Option.map_map] at first
      exact first

/-- Quotes before closing ones are quotes after them. -/
theorem replicate_append_closing (quote : Char) (quotes : Nat) (rest : List Char) :
    List.replicate quotes quote ++ quote :: quote :: quote :: rest =
      quote :: quote :: quote :: (List.replicate quotes quote ++ rest) := by
  induction quotes with
  | zero =>
      rfl
  | succ quotes inductionHypothesis =>
      rw [List.replicate_succ, List.cons_append, inductionHypothesis]
      rfl

theorem readLines_quote : PassesQuote '"' (readLines false) := by
  intro following notClosing
  rw [readLines]
  · rfl
  · rintro others _ rfl
    exact notClosing others rfl
  all_goals
    intros
    contradiction

theorem readLines_closing (rest : List Char) :
    readLines false ('"' :: '"' :: '"' :: rest) = some (extraQuotes '"' rest) := by
  rw [readLines]

/-- What stands for a character other than a quote in a string of several lines. -/
theorem exists_readLines {character : Char} (notQuote : character ≠ '"') :
    ∃ first others, (escape? character).getD [character] = first :: others ∧ first ≠ '"' ∧
      ∀ rest, readLines false (first :: (others ++ rest)) =
        (readLines false rest).map (prepend character) := by
  by_cases isEnd : character = '\n'
  · subst isEnd
    refine ⟨'\n', [], rfl, by decide, fun rest => ?_⟩
    rw [List.nil_append, readLines, if_neg Bool.false_ne_true]
    rfl
  · have spelling := spelling_escape notQuote isEnd
    obtain ⟨first, others, same, notQuote, _⟩ := spelling.exists_cons
    rw [same] at spelling ⊢
    exact ⟨first, others, rfl, notQuote, fun rest => readLines_spelling spelling rest⟩

/-- The quotes before the place that was reached are read together with what follows them,
as they may be closing ones. -/
theorem readLines_escapeLines {quotes : Nat} (few : quotes ≤ 2) (characters : List Char)
    {next : Char} (notQuote : next ≠ '"') (rest : List Char) :
    readLines false (List.replicate quotes '"' ++ (escapeLines quotes characters ++
        '"' :: '"' :: '"' :: next :: rest)) =
      some (List.replicate quotes '"' ++ characters, next :: rest) := by
  -- The quotes that were written since the last other character are still to be read.
  induction characters generalizing quotes with
  | nil =>
      rw [escapeLines, List.nil_append, List.append_nil, replicate_append_closing,
        readLines_closing, extraQuotes_replicate few notQuote]
  | cons character others inductionHypothesis =>
      have later := inductionHypothesis (Nat.zero_le 2)
      rw [List.replicate_zero, List.nil_append, List.nil_append] at later
      rw [escapeLines]
      split
      · rename_i same
        subst same
        split
        · rename_i full
          subst full
          have escaped := readLines_spelling (.short (rfl : Text.ofShortForm? '"' = some '"'))
            (escapeLines 0 others ++ '"' :: '"' :: '"' :: next :: rest)
          rw [later] at escaped
          rw [List.cons_append, List.cons_append,
            readLines_quote.replicate (by decide) (by decide)]
          exact congrArg (Option.map _) escaped
        · rename_i more
          have read := inductionHypothesis (by omega : quotes + 1 ≤ 2)
          rw [List.replicate_succ', List.append_assoc, List.append_assoc] at read
          exact read
      · rename_i notQuoteHere
        obtain ⟨first, more, same, notQuoteFirst, step⟩ := exists_readLines notQuoteHere
        rw [same, List.cons_append, List.cons_append, List.append_assoc,
          readLines_quote.replicate few notQuoteFirst, step, later]
        rfl

/-- The longest run of a character from a place after some of them on is short. -/
def ShortRuns (tested : Char) (limit : Nat) : Nat → List Char → Prop
  | _, [] => True
  | current, character :: rest =>
      if character = tested then current < limit ∧ ShortRuns tested limit (current + 1) rest
      else ShortRuns tested limit 0 rest

theorem shortRuns_of_longestRun {tested : Char} {limit : Nat} {characters : List Char}
    (short : longestRun tested characters ≤ limit) : ShortRuns tested limit 0 characters := by
  -- The fold keeps the longest run so far and the length of the one it is in.
  have general : ∀ characters longest current,
      (characters.foldl (fun counted character =>
        if character = tested then (max counted.1 (counted.2 + 1), counted.2 + 1)
        else (counted.1, 0)) (longest, current)).1 ≤ limit →
      longest ≤ limit ∧ ShortRuns tested limit current characters := by
    intro characters
    induction characters with
    | nil =>
        intro longest current short
        exact ⟨short, trivial⟩
    | cons character rest inductionHypothesis =>
        intro longest current short
        rw [List.foldl_cons] at short
        dsimp only at short
        rw [ShortRuns]
        by_cases same : character = tested
        · rw [if_pos same] at short ⊢
          obtain ⟨bound, later⟩ := inductionHypothesis _ _ short
          exact ⟨by omega, by omega, later⟩
        · rw [if_neg same] at short ⊢
          exact inductionHypothesis _ _ short
  exact (general characters 0 0 short).2

theorem not_mem_of_shortRuns {tested : Char} {characters : List Char}
    (short : ShortRuns tested 0 0 characters) : tested ∉ characters := by
  induction characters with
  | nil =>
      exact List.not_mem_nil
  | cons character rest inductionHypothesis =>
      rw [ShortRuns] at short
      by_cases same : character = tested
      · rw [if_pos same] at short
        exact absurd short.1 (Nat.lt_irrefl 0)
      · rw [if_neg same] at short
        rw [List.mem_cons, not_or]
        exact ⟨Ne.symm same, inductionHypothesis short⟩

/-- A character that may stand in a string of several lines without escapes. -/
def IsPlain (character : Char) : Prop :=
  (character = '\n' || Text.isLiteral character) = true

theorem IsPlain.isLiteral {character : Char} (plain : IsPlain character)
    (notEnd : character ≠ '\n') : Text.isLiteral character = true := by
  unfold IsPlain at plain
  rw [decide_eq_false notEnd, Bool.false_or] at plain
  exact plain

theorem readLiteralLines_plain {character : Char} (plain : IsPlain character)
    (following : List Char)
    (notClosing : ∀ others, character :: following ≠ '\'' :: '\'' :: '\'' :: others) :
    readLiteralLines (character :: following) =
      (readLiteralLines following).map (prepend character) := by
  rw [readLiteralLines]
  · unfold IsPlain at plain
    rw [if_pos plain]
    rfl
  · rintro others rfl rfl
    exact notClosing others rfl
  · rintro others rfl _
    revert plain
    unfold IsPlain
    decide

theorem readLiteralLines_quote : PassesQuote '\'' readLiteralLines := by
  intro following notClosing
  have quote : IsPlain '\'' := by
    unfold IsPlain
    decide
  exact readLiteralLines_plain quote following fun others same =>
    notClosing others (List.cons.inj same).2

theorem readLiteralLines_closing (rest : List Char) :
    readLiteralLines ('\'' :: '\'' :: '\'' :: rest) = some (extraQuotes '\'' rest) := by
  rw [readLiteralLines]

theorem readLiteralLines_lines {quotes : Nat} (few : quotes ≤ 2) {characters : List Char}
    (short : ShortRuns '\'' 2 quotes characters)
    (plain : ∀ character ∈ characters, IsPlain character) {next : Char} (notQuote : next ≠ '\'')
    (rest : List Char) :
    readLiteralLines (List.replicate quotes '\'' ++
        (characters ++ '\'' :: '\'' :: '\'' :: next :: rest)) =
      some (List.replicate quotes '\'' ++ characters, next :: rest) := by
  induction characters generalizing quotes with
  | nil =>
      rw [List.nil_append, List.append_nil, replicate_append_closing, readLiteralLines_closing,
        extraQuotes_replicate few notQuote]
  | cons character others inductionHypothesis =>
      have plainOthers : ∀ other ∈ others, IsPlain other := fun other member =>
        plain other (List.mem_cons_of_mem _ member)
      rw [ShortRuns] at short
      by_cases same : character = '\''
      · rw [if_pos same] at short
        have read := inductionHypothesis (by omega : quotes + 1 ≤ 2) short.2 plainOthers
        rw [List.replicate_succ', List.append_assoc, List.append_assoc] at read
        rw [same]
        exact read
      · rw [if_neg same] at short
        have later := inductionHypothesis (Nat.zero_le 2) short plainOthers
        rw [List.replicate_zero, List.nil_append, List.nil_append] at later
        rw [List.cons_append, readLiteralLines_quote.replicate few same,
          readLiteralLines_plain (plain character List.mem_cons_self) _ fun _ start =>
            same (List.cons.inj start).1, later]
        rfl

end Lines

/-! ## Strings of any form -/

section Text

variable {characters rest : List Char}

/-- The end of a line that follows opening quotes is no part of the string, and there is one
if the string has one itself. -/
theorem skipNewline_openingLine {written : List Char}
    (noEnd : '\n' ∉ characters → ∀ others, written ≠ '\n' :: others ∧ written ≠ '\r' :: others) :
    skipNewline (openingLine characters ++ written) = written := by
  unfold openingLine
  split
  · rfl
  · rename_i single
    have absent : '\n' ∉ characters := fun member => single (List.contains_iff_mem.2 member)
    have different := noEnd absent
    rw [List.nil_append, skipNewline, afterNewline?]
    · rfl
    · intro others same
      exact (different others).1 same
    · intro others same
      exact (different ('\n' :: others)).2 same

/-- Where no three quotes stand at the front, a string is on one line. -/
theorem readText_of_single {text : List Char}
    (single : ∀ quote others, text ≠ quote :: quote :: quote :: others) :
    readText text = readLineText text := by
  rw [readText]
  · intro others same
    exact single '"' others same
  · intro others same
    exact single '\'' others same

theorem readText_line (characters rest : List Char) :
    readText (writeText characters .line ++ '\n' :: rest) =
      some (String.ofList characters, '\n' :: rest) := by
  rw [readText_of_single, readLineText_line]
  intro quote others same
  cases characters with
  | nil =>
      obtain ⟨rfl, same⟩ := List.cons.inj same
      obtain ⟨_, same⟩ := List.cons.inj same
      cases (List.cons.inj same).1
  | cons character more =>
      obtain ⟨first, following, spelled, notQuote⟩ := exists_escapeLine character more
      rw [writeText, spelled] at same
      obtain ⟨rfl, same⟩ := List.cons.inj same
      exact notQuote (List.cons.inj same).1

theorem readText_literal
    (plain : ∀ character ∈ characters, character ≠ '\'' ∧ Text.isLiteral character = true)
    (rest : List Char) :
    readText (writeText characters .literal ++ '\n' :: rest) =
      some (String.ofList characters, '\n' :: rest) := by
  rw [readText_of_single, readLineText_literal plain]
  intro quote others same
  cases characters with
  | nil =>
      obtain ⟨rfl, same⟩ := List.cons.inj same
      obtain ⟨_, same⟩ := List.cons.inj same
      cases (List.cons.inj same).1
  | cons character more =>
      obtain ⟨rfl, same⟩ := List.cons.inj same
      exact (plain character List.mem_cons_self).1 (List.cons.inj same).1

theorem exists_escapeLines (absent : '\n' ∉ characters) (rest : List Char) :
    ∃ first following, escapeLines 0 characters ++ '"' :: '"' :: '"' :: rest = first :: following ∧
      first ≠ '\n' ∧ first ≠ '\r' := by
  cases characters with
  | nil =>
      exact ⟨_, _, rfl, by decide, by decide⟩
  | cons character more =>
      rw [escapeLines]
      split
      · exact ⟨_, _, rfl, by decide, by decide⟩
      · rename_i notQuote
        have notEnd : character ≠ '\n' := by
          rintro rfl
          exact absent List.mem_cons_self
        obtain ⟨first, following, same, _, notEndFirst, notReturn⟩ :=
          (spelling_escape notQuote notEnd).exists_cons
        rw [same]
        exact ⟨first, _, rfl, notEndFirst, notReturn⟩

theorem readText_lines (characters rest : List Char) :
    readText (writeText characters .lines ++ '\n' :: rest) =
      some (String.ofList characters, '\n' :: rest) := by
  have read := readLines_escapeLines (Nat.zero_le 2) characters
    (by decide : '\n' ≠ '"') rest
  rw [List.replicate_zero, List.nil_append, List.nil_append] at read
  have noEnd : '\n' ∉ characters → ∀ others,
      escapeLines 0 characters ++ '"' :: '"' :: '"' :: '\n' :: rest ≠ '\n' :: others ∧
        escapeLines 0 characters ++ '"' :: '"' :: '"' :: '\n' :: rest ≠ '\r' :: others := by
    intro absent others
    obtain ⟨first, following, same, notEnd, notReturn⟩ := exists_escapeLines absent
      ('\n' :: rest)
    rw [same]
    exact ⟨fun start => notEnd (List.cons.inj start).1,
      fun start => notReturn (List.cons.inj start).1⟩
  have skipped := skipNewline_openingLine noEnd
  simp only [writeText, List.cons_append, List.append_assoc, List.nil_append, readText, skipped,
    read, Option.map_some]

theorem readText_literalLines (plain : ∀ character ∈ characters, IsPlain character)
    (short : ShortRuns '\'' 2 0 characters) (rest : List Char) :
    readText (writeText characters .literalLines ++ '\n' :: rest) =
      some (String.ofList characters, '\n' :: rest) := by
  have read := readLiteralLines_lines (Nat.zero_le 2) short plain
    (by decide : '\n' ≠ '\'') rest
  rw [List.replicate_zero, List.nil_append, List.nil_append] at read
  have noEnd : '\n' ∉ characters → ∀ others,
      characters ++ '\'' :: '\'' :: '\'' :: '\n' :: rest ≠ '\n' :: others ∧
        characters ++ '\'' :: '\'' :: '\'' :: '\n' :: rest ≠ '\r' :: others := by
    intro absent others
    cases characters with
    | nil =>
        exact ⟨nofun, nofun⟩
    | cons character more =>
        have plainFirst := plain character List.mem_cons_self
        constructor
        · intro start
          exact absent (List.mem_cons.2 (.inl (List.cons.inj start).1.symm))
        · intro start
          obtain ⟨rfl, _⟩ := List.cons.inj start
          revert plainFirst
          unfold IsPlain
          decide
  have skipped := skipNewline_openingLine noEnd
  simp only [writeText, List.cons_append, List.append_assoc, List.nil_append, readText, skipped,
    read, Option.map_some]

theorem isPlain_of_not_needsEscape {character : Char}
    (unneeded : needsEscape character = false) : IsPlain character := by
  unfold needsEscape at unneeded
  unfold IsPlain
  cases literal : Text.isLiteral character with
  | true =>
      exact Bool.or_true _
  | false =>
      rw [literal] at unneeded
      rw [Bool.or_false, decide_eq_true_iff]
      exact bne_eq_false_iff_eq.1 unneeded

/-- A string is read back from its text. -/
theorem readText_renderText (value : String) (rest : List Char) :
    readText ((renderText value).toList ++ '\n' :: rest) = some (value, '\n' :: rest) := by
  unfold renderText
  rw [String.toList_ofList]
  have whole : String.ofList value.toList = value := String.ofList_toList
  have plain : value.toList.any needsEscape = false →
      ∀ character ∈ value.toList, IsPlain character := by
    intro none character member
    have unneeded := List.any_eq_false.1 none character member
    exact isPlain_of_not_needsEscape (Bool.eq_false_iff.2 unneeded)
  generalize value.toList = characters at whole plain ⊢
  rw [← whole]
  unfold textForm
  dsimp only
  split
  · exact readText_line characters rest
  · split
    · rename_i literal
      simp only [Bool.and_eq_true, Bool.not_eq_true', beq_iff_eq] at literal
      obtain ⟨⟨unescaped, noQuote⟩, single⟩ := literal
      have absent := not_mem_of_shortRuns (shortRuns_of_longestRun (Nat.le_of_eq noQuote))
      refine readText_literal (fun character member => ⟨?_, ?_⟩) rest
      · rintro rfl
        exact absent member
      · refine (plain unescaped character member).isLiteral ?_
        rintro rfl
        rw [List.contains_iff_mem.2 member] at single
        cases single
    · split
      · exact readText_lines characters rest
      · split
        · rename_i literal
          simp only [Bool.and_eq_true, Bool.not_eq_true', decide_eq_true_eq] at literal
          exact readText_literalLines (plain literal.1) (shortRuns_of_longestRun literal.2) rest
        · split
          · exact readText_lines characters rest
          · exact readText_line characters rest

end Text

/-! ## Keys -/

section Keys

variable {characters rest : List Char}

theorem ne_quote_of_isKeyCharacter {character : Char} (inKey : isKeyCharacter character = true) :
    character ≠ '"' ∧ character ≠ '\'' := by
  constructor
  · rintro rfl
    revert inKey
    decide
  · rintro rfl
    revert inKey
    decide

/-- A bare key ends where a character stands that cannot be part of it. -/
theorem readSimpleKey_bare (nonempty : characters ≠ [])
    (inKey : ∀ character ∈ characters, isKeyCharacter character = true) {next : Char}
    (stops : isKeyCharacter next = false) (rest : List Char) :
    readSimpleKey (characters ++ next :: rest) = some (String.ofList characters, next :: rest) := by
  have taken : (characters ++ next :: rest).takeWhile isKeyCharacter = characters := by
    rw [List.takeWhile_append_of_pos inKey, List.takeWhile_cons_of_neg (by rw [stops]; decide),
      List.append_nil]
  have dropped : (characters ++ next :: rest).dropWhile isKeyCharacter = next :: rest := by
    rw [List.dropWhile_append_of_pos inKey, List.dropWhile_cons_of_neg (by rw [stops]; decide)]
  obtain ⟨first, others, rfl⟩ := List.exists_cons_of_ne_nil nonempty
  obtain ⟨notQuote, notSingle⟩ := ne_quote_of_isKeyCharacter (inKey first List.mem_cons_self)
  rw [readSimpleKey]
  · rw [taken, dropped]
    exact if_neg (by simp)
  · intro _ same
    exact notQuote (List.cons.inj same).1
  · intro _ same
    exact notSingle (List.cons.inj same).1

/-- A key is read back from its text. -/
theorem readSimpleKey_renderKey (key : String) (rest : List Char) :
    readSimpleKey ((renderKey key).toList ++ ' ' :: rest) = some (key, ' ' :: rest) := by
  have whole : String.ofList key.toList = key := String.ofList_toList
  unfold renderKey
  dsimp only
  split
  · rename_i bare
    have read := readSimpleKey_bare bare.1 (List.all_eq_true.1 bare.2)
      (rfl : isKeyCharacter ' ' = false) rest
    rw [whole] at read
    exact read
  · rw [String.toList_ofList]
    generalize key.toList = characters at whole ⊢
    rw [← whole]
    have line : readSimpleKey (writeText characters .line ++ ' ' :: rest) =
        some (String.ofList characters, ' ' :: rest) :=
      readLineText_line characters (' ' :: rest)
    unfold keyForm
    dsimp only
    split
    · exact line
    · split
      · rename_i literal
        simp only [Bool.and_eq_true, Bool.not_eq_true'] at literal
        obtain ⟨unescaped, noQuote⟩ := literal
        refine readLineText_literal (fun character member => ⟨?_, ?_⟩) (' ' :: rest)
        · rintro rfl
          rw [List.contains_iff_mem.2 member] at noQuote
          cases noQuote
        · have unneeded := Bool.eq_false_iff.2 (List.any_eq_false.1 unescaped character member)
          rw [Bool.or_eq_false_iff] at unneeded
          exact (isPlain_of_not_needsEscape unneeded.1).isLiteral (beq_eq_false_iff_ne.1 unneeded.2)
      · exact line

end Keys

end Toml
end AssetExchange
