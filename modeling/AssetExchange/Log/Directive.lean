import AssetExchange.Log.Message
import AssetExchange.Text.Numeral
import AssetExchange.Text.Piece
import AssetExchange.Word

/-!
# Directives for diagnostics

A directive says down to which level the events of some targets are let through. It
concerns every target that begins with its text, and it may be limited to events that
carry a certain field. Of the directives that concern an event the most specific one
decides: the one with the longest text, then one with a field, then the one that was
given last.
-/

namespace AssetExchange

/-! ## Events -/

/-- A diagnostic event. -/
structure Event where
  target : String
  level : EventLevel
  fields : List String
deriving DecidableEq

namespace EventLevel

/-- The level that a text stands for: its number, or its name in capitals or small
letters. -/
def ofText? (text : String) : Option EventLevel :=
  match Text.unsigned? wordLimit text.toList with
  | some number => ofRank? number
  | none =>
      (Enumerated.values : List EventLevel).find? fun level =>
        Text.lowerAscii level.name == Text.lowerAscii text

end EventLevel

/-! ## Directives -/

/-- The least grave level that is let through; none lets nothing through. -/
abbrev EventLimit := Option EventLevel

namespace EventLimit

/-- The limit that a text stands for: that of a level, or none for zero and `off`. -/
def ofText? (text : String) : Option EventLimit :=
  if Text.unsigned? wordLimit text.toList = some 0 ∨ Text.lowerAscii text = "off" then
    some none
  else (EventLevel.ofText? text).map some

def admits (limit : EventLimit) (level : EventLevel) : Bool :=
  limit.any fun least => level.rank ≤ least.rank

end EventLimit

/-- A rule for the events of some targets. -/
structure Directive where
  target : String
  /-- The field that the events carry, if they have to carry one. -/
  field : Option String
  limit : EventLimit
deriving DecidableEq

namespace Directive

/-- The limit after a target: everything unless a limit is given after an equals sign,
where an empty text stands for everything, too. -/
def limitAfter? : List Char → Option EventLimit
  | [] | ['='] => some (some .trace)
  | '=' :: rest => EventLimit.ofText? (String.ofList rest)
  | _ :: _ => none

/-- The directive with a target and what stands after the opening bracket behind it: a
field in braces and the closing bracket. Directives for named spans and for values of
fields concern no single event and count as none. -/
def withField? (target : String) (characters : List Char) : Option Directive :=
  match characters with
  | '\x7b' :: rest =>
      let field := rest.takeWhile (· ≠ '\x7d')
      match rest.dropWhile (· ≠ '\x7d') with
      | '\x7d' :: ']' :: after =>
          if field.isEmpty ∨ field.contains '=' then none
          else (limitAfter? after).map fun limit => ⟨target, some (String.ofList field), limit⟩
      | _ => none
  | _ => none

/-- The directive that a text stands for. A text without a target is a limit for all
targets. -/
def ofText? (text : String) : Option Directive :=
  match EventLimit.ofText? text with
  | some limit => some ⟨"", none, limit⟩
  | none =>
      let marks (character : Char) : Bool := character == '=' || character == '['
      let target := String.ofList (text.toList.takeWhile (!marks ·))
      match text.toList.dropWhile (!marks ·) with
      | '[' :: rest => withField? target rest
      | rest =>
          if target.isEmpty then none
          else (limitAfter? rest).map fun limit => ⟨target, none, limit⟩

/-- The directives that a text lists between commas; parts that are none are left out. -/
def listOf (text : String) : List Directive :=
  (Text.pieces [','] text.toList).filterMap fun part =>
    if part.isEmpty then none else ofText? (String.ofList part)

def concerns (directive : Directive) (event : Event) : Bool :=
  Text.startsWith event.target directive.target &&
    directive.field.all event.fields.contains

/-- How specific a directive is. -/
def weight (directive : Directive) : Nat :=
  2 * directive.target.length + (if directive.field.isSome then 1 else 0)

/-- The more specific of two directives, the second one when they are alike. -/
def moreSpecific (first second : Directive) : Directive :=
  if second.weight < first.weight then first else second

def deciding? (directives : List Directive) (event : Event) : Option Directive :=
  match directives.filter (·.concerns event) with
  | [] => none
  | first :: others => some (others.foldl moreSpecific first)

def letThrough (directives : List Directive) (event : Event) : Bool :=
  (deciding? directives event).any fun directive => directive.limit.admits event.level

end Directive
end AssetExchange
