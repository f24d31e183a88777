/-
# What the backtracking engine refuses

Why the backtracking engine refuses an expression.  Most causes show at an offset
of the expression; three concern what is built from it and have none.

Where the expression has several lines, the message tells the line and the
column of the offset as well, both counted from one.
-/

import RouteTable.Text.Numeral
import RouteTable.Text.Quoted

namespace RouteTable
namespace Regex
namespace Backtracking

/-- Why an expression is malformed. -/
inductive Cause where
  | danglingEscape
  | badEscape (escape : Text)
  | incompleteEscape (escape : Text)
  | octalTooLarge (escape : Text)
  | missingBrace
  | undefinedCharacter (name : Text)
  | missingName (what : String)
  | unterminatedName (terminator : CodePoint)
  | badGroupName (name : Text)
  | unknownGroupName (name : Text)
  | redefinedGroup (name : Text) (new old : Nat)
  | invalidReference (group : Nat)
  | openGroup
  | sameLookbehind
  | badGroupNumber
  | unterminatedSet
  | badRange (first last : Text)
  | nothingToRepeat
  | multipleRepeat
  | leastOverGreatest
  | endOfExpression
  | unknownExtension (extension : Text)
  | unterminatedComment
  | unterminatedGroup
  | unbalancedParenthesis
  | tooManyBranches
  | lateGlobalFlags
  | byteFlag
  | incompatibleFlags
  | unfinishedFlags
  | unknownFlag
  | missingFlag
  | missingColon
  | turnsOnGlobalFlag
  | turnsOffGlobalFlag
  | turnsOffAlphabet
  | flagOnAndOff
  | variableLookbehind
  | lookbehindTooWide
  | unsupportedRepeat (kind : String)
  deriving DecidableEq, Repr

/-- The message of a cause. -/
def Cause.message : Cause → Text
  | danglingEscape => "bad escape (end of pattern)".text
  | badEscape t => "bad escape ".text ++ t
  | incompleteEscape t => "incomplete escape ".text ++ t
  | octalTooLarge t => "octal escape value ".text ++ t ++ " outside of range 0-0o377".text
  | missingBrace => "missing \x7b".text
  | undefinedCharacter t => "undefined character name ".text ++ Text.quoted t
  | missingName what => s!"missing {what}".text
  | unterminatedName c => "missing ".text ++ c :: ", unterminated name".text
  | badGroupName t => "bad character in group name ".text ++ Text.quoted t
  | unknownGroupName t => "unknown group name ".text ++ Text.quoted t
  | redefinedGroup t new old =>
    "redefinition of group name ".text ++ Text.quoted t
      ++ s!" as group {new}; was group {old}".text
  | invalidReference n => s!"invalid group reference {n}".text
  | openGroup => "cannot refer to an open group".text
  | sameLookbehind => "cannot refer to group defined in the same lookbehind subpattern".text
  | badGroupNumber => "bad group number".text
  | unterminatedSet => "unterminated character set".text
  | badRange a b => "bad character range ".text ++ a ++ "-".text ++ b
  | nothingToRepeat => "nothing to repeat".text
  | multipleRepeat => "multiple repeat".text
  | leastOverGreatest => "min repeat greater than max repeat".text
  | endOfExpression => "unexpected end of pattern".text
  | unknownExtension t => "unknown extension ".text ++ t
  | unterminatedComment => "missing ), unterminated comment".text
  | unterminatedGroup => "missing ), unterminated subpattern".text
  | unbalancedParenthesis => "unbalanced parenthesis".text
  | tooManyBranches => "conditional backref with more than two branches".text
  | lateGlobalFlags => "global flags not at the start of the expression".text
  | byteFlag => "bad inline flags: cannot use 'L' flag with a str pattern".text
  | incompatibleFlags => "bad inline flags: flags 'a', 'u' and 'L' are incompatible".text
  | unfinishedFlags => "missing -, : or )".text
  | unknownFlag => "unknown flag".text
  | missingFlag => "missing flag".text
  | missingColon => "missing :".text
  | turnsOnGlobalFlag => "bad inline flags: cannot turn on global flag".text
  | turnsOffGlobalFlag => "bad inline flags: cannot turn off global flag".text
  | turnsOffAlphabet => "bad inline flags: cannot turn off flags 'a', 'u' and 'L'".text
  | flagOnAndOff => "bad inline flags: flag turned on and off".text
  | variableLookbehind => "look-behind requires fixed-width pattern".text
  | lookbehindTooWide => "looks too much behind".text
  | unsupportedRepeat kind => s!"internal: unsupported template operator {kind}".text

/-- An offset of an expression, and its line and column where the expression has
several lines. -/
structure Place where
  offset : Nat
  lineAndColumn : Option (Nat × Nat)
  deriving DecidableEq, Repr

/-- The place of an offset in an expression. -/
def Place.of (expression : Text) (offset : Nat) : Place where
  offset := offset
  lineAndColumn :=
    if expression.contains '\n' then
      let before := expression.take offset
      some (before.count (scalar '\n') + 1,
        (before.reverse.takeWhile (· != scalar '\n')).length + 1)
    else none

/-- The words for a place. -/
def Place.message (p : Place) : String :=
  match p.lineAndColumn with
  | some (line, column) => s!"at position {p.offset} (line {line}, column {column})"
  | none => s!"at position {p.offset}"

/-- Why an expression is refused. -/
inductive Error where
  /-- The expression is malformed. -/
  | malformed (cause : Cause) (place : Option Place)
  /-- A loop's bound is beyond the greatest that there is. -/
  | boundTooLarge
  /-- A number has more digits than are read. -/
  | numeralTooLong (digits : Nat)
  /-- The expression asks for ASCII and for all characters at once. -/
  | conflictingAlphabets
  deriving DecidableEq, Repr

/-- The message of an error. -/
def Error.message : Error → Text
  | malformed cause (some place) => cause.message ++ scalar ' ' :: place.message.text
  | malformed cause none => cause.message
  | boundTooLarge => "the repetition number is too large".text
  | numeralTooLong n =>
    s!"Exceeds the limit ({maxNumeralLength} digits) for integer string conversion: ".text
      ++ s!"value has {n} digits; ".text
      ++ "use sys.set_int_max_str_digits() to increase the limit".text
  | conflictingAlphabets => "ASCII and UNICODE flags are incompatible".text

end Backtracking
end Regex
end RouteTable
