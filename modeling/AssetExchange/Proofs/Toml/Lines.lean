import AssetExchange.Config.Saving
import AssetExchange.Proofs.Toml.Numbers
import AssetExchange.Proofs.Toml.Strings

/-!
# Lines of configuration files

A value, an entry and the lines of a section are read back from the text in which they are
written (`readValue_renderValue`, `readStatement_renderEntry`, `readsAs_renderSection`).

What a stretch of whole lines says does not depend on the lines around it (`ReadsAs`), so the
statements of a file are those of its stretches one after the other (`ReadsAs.append`).
-/

namespace AssetExchange

namespace Toml

/-! ## Values -/

section Values

variable {text rest : List Char}

/-- The characters that a number begins with. -/
def BeginsNumber (text : List Char) : Prop :=
  ∃ first others, text = first :: others ∧
    (first.isDigit = true ∨ first = '-' ∨ first = 'i')

theorem beginsNumber_signText (negative : Bool)
    (begins : BeginsNumber text) : BeginsNumber (signText negative ++ text) := by
  cases negative with
  | true =>
      exact ⟨'-', text, rfl, .inr (.inl rfl)⟩
  | false =>
      exact begins

theorem AreDigits.beginsNumber {digits : List Char} (areDigits : AreDigits digits)
    (rest : List Char) : BeginsNumber (digits ++ rest) := by
  obtain ⟨first, others, rfl⟩ := List.exists_cons_of_ne_nil areDigits.ne_nil
  exact ⟨first, others ++ rest, rfl, .inl (areDigits.isDigit first List.mem_cons_self)⟩

theorem beginsNumber_toString (value : Int) : BeginsNumber (toString value).toList := by
  rw [toList_toString]
  apply beginsNumber_signText
  rw [← List.append_nil (Nat.toDigits 10 value.natAbs)]
  exact (areDigits_toDigits value.natAbs).beginsNumber []

theorem beginsNumber_pointed {number : Binary64} (isNumber : number.isNaN = false) :
    BeginsNumber number.pointed.toList := by
  unfold Binary64.pointed Binary64.writeWith
  rw [isNumber, if_neg Bool.false_ne_true, String.toList_append, toList_sign]
  apply beginsNumber_signText
  split
  · exact ⟨'i', ['n', 'f'], rfl, .inr (.inr rfl)⟩
  · obtain ⟨whole, fraction, parts⟩ := exists_parts number.shortest
    rw [parts.split]
    exact parts.isWhole.toAreDigits.beginsNumber _

/-- What begins a value and is neither a truth value nor a string is a number. -/
theorem readValue_of_beginsNumber (begins : BeginsNumber text) (fuel depth : Nat) :
    readValue (fuel + 1) depth (text ++ rest) = readNumber (text ++ rest) := by
  obtain ⟨first, others, rfl, begins⟩ := begins
  have different : ∀ other : Char, other.isDigit = false → other ≠ '-' → other ≠ 'i' →
      first ≠ other := by
    rintro other notDigit notSign notInfinity rfl
    rw [notDigit] at begins
    rcases begins with digit | sign | infinity
    · cases digit
    · exact notSign sign
    · exact notInfinity infinity
  rw [List.cons_append, readValue]
  all_goals
    intro _ same
    exact absurd (List.cons.inj same).1 (different _ rfl (by decide) (by decide))

theorem exists_writeText (characters : List Char) (form : TextForm) :
    ∃ quote others, writeText characters form = quote :: others ∧ (quote = '"' ∨ quote = '\'') := by
  cases form with
  | line => exact ⟨_, _, rfl, .inl rfl⟩
  | literal => exact ⟨_, _, rfl, .inr rfl⟩
  | lines => exact ⟨_, _, rfl, .inl rfl⟩
  | literalLines => exact ⟨_, _, rfl, .inr rfl⟩

theorem readValue_renderText (value : String) (fuel depth : Nat) (rest : List Char) :
    readValue (fuel + 1) depth ((renderText value).toList ++ '\n' :: rest) =
      some (.text value, '\n' :: rest) := by
  have read := readText_renderText value rest
  unfold renderText at read ⊢
  rw [String.toList_ofList] at read ⊢
  obtain ⟨quote, others, same, isQuote⟩ := exists_writeText value.toList (textForm value.toList)
  rw [same, List.cons_append] at read ⊢
  rcases isQuote with rfl | rfl
  · rw [readValue, read]
    rfl
  · rw [readValue, read]
    rfl

/-- A value is read back from its text. -/
theorem readValue_renderValue {value : PropertyValue} (isNumber : value.isNaN = false)
    (fuel depth : Nat) (rest : List Char) :
    readValue (fuel + 1) depth ((renderValue value).toList ++ '\n' :: rest) =
      some (value.toDocument, '\n' :: rest) := by
  cases value with
  | bool value =>
      cases value with
      | true =>
          change readValue (fuel + 1) depth ('t' :: 'r' :: 'u' :: 'e' :: '\n' :: rest) = _
          rw [readValue]
          rfl
      | false =>
          change readValue (fuel + 1) depth ('f' :: 'a' :: 'l' :: 's' :: 'e' :: '\n' :: rest) = _
          rw [readValue]
          rfl
  | int value =>
      exact (readValue_of_beginsNumber (beginsNumber_toString value.toInt) fuel depth).trans
        (readNumber_toString (isSignedWord_toInt value) rest)
  | float value =>
      exact (readValue_of_beginsNumber (beginsNumber_pointed isNumber) fuel depth).trans
        (readNumber_pointed isNumber rest)
  | text value =>
      exact readValue_renderText value fuel depth rest

theorem BeginsNumber.exists_cons (begins : BeginsNumber text) :
    ∃ first others, text = first :: others ∧ isBlank first = false := by
  obtain ⟨first, others, rfl, begins⟩ := begins
  refine ⟨first, others, rfl, Bool.eq_false_iff.2 fun blank => ?_⟩
  unfold isBlank at blank
  rw [Bool.or_eq_true, beq_iff_eq, beq_iff_eq] at blank
  rcases blank with rfl | rfl
  · revert begins
    decide
  · revert begins
    decide

theorem exists_renderValue {value : PropertyValue} (isNumber : value.isNaN = false) :
    ∃ first others, (renderValue value).toList = first :: others ∧ isBlank first = false := by
  cases value with
  | bool value =>
      cases value with
      | true => exact ⟨'t', _, rfl, rfl⟩
      | false => exact ⟨'f', _, rfl, rfl⟩
  | int value =>
      exact (beginsNumber_toString value.toInt).exists_cons
  | float value =>
      exact (beginsNumber_pointed isNumber).exists_cons
  | text value =>
      obtain ⟨quote, others, same, isQuote⟩ :=
        exists_writeText value.toList (textForm value.toList)
      refine ⟨quote, others, String.toList_ofList.trans same, ?_⟩
      rcases isQuote with rfl | rfl <;> rfl

/-- No value begins with a blank. -/
theorem skipBlanks_renderValue {value : PropertyValue} (isNumber : value.isNaN = false)
    (rest : List Char) :
    skipBlanks ((renderValue value).toList ++ rest) = (renderValue value).toList ++ rest := by
  obtain ⟨first, others, same, notBlank⟩ := exists_renderValue isNumber
  rw [same, List.cons_append, skipBlanks, List.dropWhile_cons_of_neg (by rw [notBlank]; decide)]

end Values

/-! ## Statements -/

section Statements

variable {text rest : List Char}

/-- The characters that a key begins with. -/
def BeginsKey (text : List Char) : Prop :=
  ∃ first others, text = first :: others ∧
    (isKeyCharacter first = true ∨ first = '"' ∨ first = '\'')

theorem beginsKey_of_readSimpleKey {read : String × List Char}
    (isKey : readSimpleKey text = some read) : BeginsKey text := by
  cases text with
  | nil =>
      cases isKey
  | cons first others =>
      refine ⟨first, others, rfl, ?_⟩
      by_cases inKey : isKeyCharacter first = true
      · exact .inl inKey
      · right
        unfold readSimpleKey at isKey
        split at isKey
        · rename_i same
          exact .inl (List.cons.inj same).1
        · rename_i same
          exact .inr (List.cons.inj same).1
        · rw [List.takeWhile_cons_of_neg inKey] at isKey
          cases isKey

theorem BeginsKey.ne {other : Char} (begins : BeginsKey text)
    (notInKey : isKeyCharacter other = false) (notQuote : other ≠ '"') (notSingle : other ≠ '\'')
    (others : List Char) : text ≠ other :: others := by
  obtain ⟨first, following, rfl, begins⟩ := begins
  intro same
  obtain ⟨rfl, _⟩ := List.cons.inj same
  rw [notInKey] at begins
  rcases begins with inKey | quote | single
  · cases inKey
  · exact notQuote quote
  · exact notSingle single

theorem skipBlanks_of_ne (notSpace : ∀ others, text ≠ ' ' :: others)
    (notTab : ∀ others, text ≠ '\t' :: others) : skipBlanks text = text := by
  cases text with
  | nil =>
      rfl
  | cons first others =>
      have notBlank : ¬isBlank first = true := by
        unfold isBlank
        rw [Bool.or_eq_true, beq_iff_eq, beq_iff_eq]
        rintro (rfl | rfl)
        · exact notSpace others rfl
        · exact notTab others rfl
      rw [skipBlanks, List.dropWhile_cons_of_neg notBlank]

theorem BeginsKey.skipBlanks (begins : BeginsKey text) : skipBlanks text = text :=
  skipBlanks_of_ne (begins.ne rfl (by decide) (by decide)) (begins.ne rfl (by decide) (by decide))

/-- A key that no point follows is read as a key of one part. -/
theorem readKey_simple {key : String} (isKey : readSimpleKey text = some (key, rest))
    (noPoint : ∀ others, Toml.skipBlanks rest ≠ '.' :: others) :
    readKey text = some (⟨[], key⟩, Toml.skipBlanks rest) := by
  unfold readKey nestingLimit
  rw [readKeyPath, (beginsKey_of_readSimpleKey isKey).skipBlanks, isKey]
  dsimp only [Option.bind_eq_bind, Option.bind_some, Option.pure_def]
  split
  · rename_i same
    exact absurd same (noPoint _)
  · rfl

theorem endLine?_newline (rest : List Char) : endLine? ('\n' :: rest) = some rest := by
  rfl

theorem toList_renderEntry (key : String) (value : PropertyValue) (rest : List Char) :
    (renderEntry key value).toList ++ rest =
      (renderKey key).toList ++ ' ' :: '=' :: ' ' :: ((renderValue value).toList ++ rest) := by
  unfold renderEntry
  simp only [String.toList_append, List.append_assoc]
  rfl

/-- An entry is read back from its line. -/
theorem readStatement_renderEntry (key : String) {value : PropertyValue}
    (isNumber : value.isNaN = false) (rest : List Char) :
    readStatement ((renderEntry key value).toList ++ '\n' :: rest) =
      some (.entry ⟨[], key⟩ value.toDocument, rest) := by
  rw [toList_renderEntry]
  have isKey := readSimpleKey_renderKey key
    ('=' :: ' ' :: ((renderValue value).toList ++ '\n' :: rest))
  have begins := beginsKey_of_readSimpleKey isKey
  have key := readKey_simple isKey fun _ same => by
    cases (List.cons.inj same).1
  have skipped : Toml.skipBlanks (' ' :: ((renderValue value).toList ++ '\n' :: rest)) =
      (renderValue value).toList ++ '\n' :: rest :=
    skipBlanks_renderValue isNumber ('\n' :: rest)
  have notHeader := begins.ne (rfl : isKeyCharacter '[' = false) (by decide) (by decide)
  rw [readStatement]
  · rw [key]
    have follows : after? '=' (Toml.skipBlanks (' ' :: '=' :: ' ' ::
        ((renderValue value).toList ++ '\n' :: rest))) =
        some (' ' :: ((renderValue value).toList ++ '\n' :: rest)) := rfl
    simp only [Option.bind_eq_bind, Option.bind_some, follows, skipped,
      readValue_renderValue isNumber, endLine?_newline, Option.pure_def]
  · intro others
    exact notHeader ('[' :: others)
  · exact notHeader

/-- A key that stands in a file as it is. -/
structure IsBare (key : String) : Prop where
  ne_nil : key.toList ≠ []
  inKey : key.toList.all isKeyCharacter = true

/-- A dotted key as it stands in a header. -/
def dottedText (path : KeyPath) : List Char :=
  path.parents.flatMap (fun key => key.toList ++ ['.']) ++ path.last.toList

theorem readSimpleKey_isBare {key : String} (bare : IsBare key) {next : Char}
    (stops : isKeyCharacter next = false) (rest : List Char) :
    readSimpleKey (key.toList ++ next :: rest) = some (key, next :: rest) := by
  have read := readSimpleKey_bare bare.ne_nil (List.all_eq_true.1 bare.inKey) stops rest
  rw [String.ofList_toList] at read
  exact read

theorem readKeyPath_dottedText {parents : List String} {last : String}
    (bareParents : ∀ key ∈ parents, IsBare key) (bare : IsBare last) {limit : Nat}
    (enough : parents.length < limit) (rest : List Char) :
    readKeyPath limit (dottedText ⟨parents, last⟩ ++ ']' :: rest) =
      some (⟨parents, last⟩, ']' :: rest) := by
  obtain ⟨limit, rfl⟩ := Nat.exists_eq_succ_of_ne_zero (Nat.ne_of_gt (Nat.zero_lt_of_lt enough))
  induction parents generalizing limit with
  | nil =>
      have isKey := readSimpleKey_isBare bare (rfl : isKeyCharacter ']' = false) rest
      change readKeyPath (limit + 1) (last.toList ++ ']' :: rest) = _
      rw [readKeyPath, (beginsKey_of_readSimpleKey isKey).skipBlanks, isKey]
      rfl
  | cons key parents inductionHypothesis =>
      have isKey := readSimpleKey_isBare (bareParents key List.mem_cons_self)
        (rfl : isKeyCharacter '.' = false) (dottedText ⟨parents, last⟩ ++ ']' :: rest)
      have split : dottedText ⟨key :: parents, last⟩ ++ ']' :: rest =
          key.toList ++ '.' :: (dottedText ⟨parents, last⟩ ++ ']' :: rest) := by
        simp [dottedText]
      rw [List.length_cons] at enough
      obtain ⟨limit, rfl⟩ := Nat.exists_eq_succ_of_ne_zero (by omega : limit ≠ 0)
      have later := inductionHypothesis
        (fun other member => bareParents other (List.mem_cons_of_mem _ member)) limit (by omega)
      rw [split, readKeyPath, (beginsKey_of_readSimpleKey isKey).skipBlanks, isKey]
      have point : Toml.skipBlanks ('.' :: (dottedText ⟨parents, last⟩ ++ ']' :: rest)) =
          '.' :: (dottedText ⟨parents, last⟩ ++ ']' :: rest) := rfl
      simp only [Option.bind_eq_bind, Option.bind_some, point, later, Option.pure_def]

theorem beginsKey_dottedText {path : KeyPath} (bareParents : ∀ key ∈ path.parents, IsBare key)
    (bare : IsBare path.last) (rest : List Char) :
    BeginsKey (dottedText path ++ ']' :: rest) := by
  obtain ⟨parents, last⟩ := path
  cases parents with
  | nil =>
      have isKey := readSimpleKey_isBare bare (rfl : isKeyCharacter ']' = false) rest
      exact beginsKey_of_readSimpleKey isKey
  | cons key parents =>
      have isKey := readSimpleKey_isBare (bareParents key List.mem_cons_self)
        (rfl : isKeyCharacter '.' = false) (dottedText ⟨parents, last⟩ ++ ']' :: rest)
      have begins := beginsKey_of_readSimpleKey isKey
      simpa [dottedText] using begins

/-- A header is read back from its line. -/
theorem readStatement_header {path : KeyPath} (bareParents : ∀ key ∈ path.parents, IsBare key)
    (bare : IsBare path.last) (enough : path.parents.length < nestingLimit) (rest : List Char) :
    readStatement ('[' :: (dottedText path ++ ']' :: '\n' :: rest)) =
      some (.header path false, rest) := by
  have key : readKey (dottedText path ++ ']' :: '\n' :: rest) = some (path, ']' :: '\n' :: rest) :=
    readKeyPath_dottedText bareParents bare enough ('\n' :: rest)
  have begins := beginsKey_dottedText bareParents bare ('\n' :: rest)
  rw [readStatement]
  · rw [key]
    rfl
  · intro others
    exact begins.ne rfl (by decide) (by decide) others

end Statements

/-! ## Stretches of lines -/

section Lines

variable {text more : List Char} {statements others : List Statement}

/-- What whole lines say, whatever the lines after them say. -/
def ReadsAs (text : List Char) (statements : List Statement) : Prop :=
  ∀ rest others, (∀ fuel, rest.length < fuel → readStatements fuel rest = some others) →
    ∀ fuel, (text ++ rest).length < fuel →
      readStatements fuel (text ++ rest) = some (statements ++ others)

theorem readsAs_nil : ReadsAs [] [] := fun _ _ read => read

theorem ReadsAs.append (readsAs : ReadsAs text statements) (readsMore : ReadsAs more others) :
    ReadsAs (text ++ more) (statements ++ others) := by
  intro rest last read
  have later := readsAs (more ++ rest) (others ++ last) (readsMore rest last read)
  rw [List.append_assoc, List.append_assoc]
  exact later

theorem readsAs_blankLine : ReadsAs ['\n'] [] := by
  intro rest others read fuel enough
  obtain ⟨fuel, rfl⟩ := Nat.exists_eq_succ_of_ne_zero (Nat.ne_of_gt (Nat.zero_lt_of_lt enough))
  change readStatements (fuel + 1) ('\n' :: rest) = some others
  have start : skipBlanks ('\n' :: rest) = '\n' :: rest := rfl
  rw [readStatements, start]
  exact read fuel (Nat.lt_of_succ_lt_succ enough)

/-- The characters that a line with a statement begins with. -/
def BeginsStatement (line : List Char) : Prop :=
  BeginsKey line ∨ ∃ others, line = '[' :: others

theorem BeginsStatement.ne {line : List Char} (begins : BeginsStatement line) {other : Char}
    (notInKey : isKeyCharacter other = false) (notQuote : other ≠ '"') (notSingle : other ≠ '\'')
    (notHeader : other ≠ '[') (rest others : List Char) : line ++ rest ≠ other :: others := by
  rcases begins with begins | ⟨following, rfl⟩
  · obtain ⟨first, following, rfl, isFirst⟩ := begins
    exact BeginsKey.ne ⟨first, following ++ rest, rfl, isFirst⟩ notInKey notQuote notSingle others
  · intro same
    exact notHeader (List.cons.inj same).1.symm

/-- A line that is read as a statement. -/
theorem readsAs_line {line : List Char} {statement : Statement}
    (read : ∀ rest, readStatement (line ++ '\n' :: rest) = some (statement, rest))
    (begins : BeginsStatement line) : ReadsAs (line ++ ['\n']) [statement] := by
  intro rest others readRest fuel enough
  obtain ⟨fuel, rfl⟩ := Nat.exists_eq_succ_of_ne_zero (Nat.ne_of_gt (Nat.zero_lt_of_lt enough))
  have fewer : rest.length < fuel := by
    simp only [List.length_append, List.length_singleton] at enough
    omega
  rw [List.append_assoc, List.singleton_append]
  have start : skipBlanks (line ++ '\n' :: rest) = line ++ '\n' :: rest :=
    skipBlanks_of_ne (begins.ne rfl (by decide) (by decide) (by decide) _)
      (begins.ne rfl (by decide) (by decide) (by decide) _)
  have notNil : line ++ '\n' :: rest ≠ [] :=
    List.append_ne_nil_of_right_ne_nil _ (List.cons_ne_nil _ _)
  rw [readStatements, start]
  split
  · rename_i same
    exact absurd same notNil
  · rename_i same
    exact absurd same (begins.ne rfl (by decide) (by decide) (by decide) _ _)
  · rename_i same
    exact absurd same (begins.ne rfl (by decide) (by decide) (by decide) _ _)
  · rename_i same
    exact absurd same (begins.ne rfl (by decide) (by decide) (by decide) _ _)
  · simp only [read, Option.bind_eq_bind, Option.bind_some, readRest fuel fewer, Option.pure_def,
      List.singleton_append]

/-! ## Sections -/

theorem beginsStatement_renderEntry (key : String) (value : PropertyValue) :
    BeginsStatement (renderEntry key value).toList := by
  have isKey := readSimpleKey_renderKey key ('=' :: ' ' :: (renderValue value).toList)
  have split := toList_renderEntry key value []
  rw [List.append_nil, List.append_nil] at split
  rw [split]
  exact .inl (beginsKey_of_readSimpleKey isKey)

theorem readsAs_entries {entries : List (String × PropertyValue)}
    (areNumbers : ∀ entry ∈ entries, entry.2.isNaN = false) :
    ReadsAs (entries.flatMap fun entry => (renderEntry entry.1 entry.2).toList ++ ['\n'])
      (entries.map fun entry => .entry ⟨[], entry.1⟩ entry.2.toDocument) := by
  induction entries with
  | nil =>
      exact readsAs_nil
  | cons entry entries inductionHypothesis =>
      have first : ReadsAs ((renderEntry entry.1 entry.2).toList ++ ['\n'])
          [.entry ⟨[], entry.1⟩ entry.2.toDocument] :=
        readsAs_line (readStatement_renderEntry entry.1 (areNumbers entry List.mem_cons_self))
          (beginsStatement_renderEntry entry.1 entry.2)
      exact first.append (inductionHypothesis fun other member =>
        areNumbers other (List.mem_cons_of_mem _ member))

theorem toList_renderSection (header : String) (lines : List String) :
    (renderSection header lines).toList =
      ('[' :: (header.toList ++ [']'])) ++ ['\n'] ++
        lines.flatMap fun line => line.toList ++ ['\n'] := by
  unfold renderSection
  simp [List.flatMap_map]

/-- A section is read back from its lines. -/
theorem readsAs_renderSection {header : String} {path : KeyPath}
    (same : header.toList = dottedText path) (bareParents : ∀ key ∈ path.parents, IsBare key)
    (bare : IsBare path.last) (enough : path.parents.length < nestingLimit)
    {entries : List (String × PropertyValue)}
    (areNumbers : ∀ entry ∈ entries, entry.2.isNaN = false) :
    ReadsAs (renderSection header
        (entries.map fun entry => renderEntry entry.1 entry.2)).toList
      (.header path false ::
        entries.map fun entry => .entry ⟨[], entry.1⟩ entry.2.toDocument) := by
  have headerLine : ReadsAs (('[' :: (header.toList ++ [']'])) ++ ['\n']) [.header path false] := by
    refine readsAs_line (fun rest => ?_) (.inr ⟨_, rfl⟩)
    rw [same]
    simpa using readStatement_header bareParents bare enough rest
  rw [toList_renderSection, List.flatMap_map]
  exact headerLine.append (readsAs_entries areNumbers)

end Lines

end Toml
end AssetExchange
