/-
# Flags

A flag is a letter.  Flags that stand alone, `(?i)`, hold for the whole
expression; flags of a group, `(?i-s:…)`, are turned on or off inside it.

The alphabet, ASCII or all characters, is chosen by a flag as well and cannot be
turned off, and one flag, `t`, holds for a whole expression only.
-/

import RouteTable.Text.Letters
import RouteTable.Regex.Backtracking.Symbol

namespace RouteTable
namespace Regex
namespace Backtracking

/-- A flag. -/
inductive Flag where
  | ignoreCase | byLocale | multiline | dotAll | verbose | ascii | loopless | unicode
  deriving DecidableEq, Repr

namespace Flag

/-- The flag of a letter. -/
def ofSymbol? : Symbol → Option Flag
  | .plain 'i' => some ignoreCase
  | .plain 'L' => some byLocale
  | .plain 'm' => some multiline
  | .plain 's' => some dotAll
  | .plain 'x' => some verbose
  | .plain 'a' => some ascii
  | .plain 't' => some loopless
  | .plain 'u' => some unicode
  | _ => none

/-- Whether the flag chooses the alphabet. -/
def choosesAlphabet (f : Flag) : Bool := f == ascii || f == byLocale || f == unicode

end Flag

/-- The flags that hold at a place. -/
structure Flags where
  ignoreCase : Bool
  multiline : Bool
  dotAll : Bool
  verbose : Bool
  ascii : Bool
  deriving DecidableEq, Repr

namespace Flags

/-- No flag. -/
def none : Flags := ⟨false, false, false, false, false⟩

/-- The flags with one more turned on. -/
def turnOn (fs : Flags) : Flag → Flags
  | .ignoreCase => { fs with ignoreCase := true }
  | .multiline => { fs with multiline := true }
  | .dotAll => { fs with dotAll := true }
  | .verbose => { fs with verbose := true }
  | .ascii => { fs with ascii := true }
  | .unicode => { fs with ascii := false }
  | .byLocale | .loopless => fs

/-- The flags with one turned off. -/
def turnOff (fs : Flags) : Flag → Flags
  | .ignoreCase => { fs with ignoreCase := false }
  | .multiline => { fs with multiline := false }
  | .dotAll => { fs with dotAll := false }
  | .verbose => { fs with verbose := false }
  | .ascii | .unicode | .byLocale | .loopless => fs

/-- The flags inside a group that turns some on and some off. -/
def change (fs : Flags) (on off : List Flag) : Flags := off.foldl turnOff (on.foldl turnOn fs)

end Flags

/-- Flags in parentheses. -/
inductive FlagGroup where
  /-- They hold for the whole expression. -/
  | whole (on : List Flag)
  /-- They open a group. -/
  | opening (on off : List Flag)
  deriving DecidableEq, Repr

/-- The fault of a symbol that is no flag: an unknown one if it is a letter. -/
def noFlag {α : Type} (otherwise : Cause) (rest : Symbols) : Symbol → Except Fault α
  | .plain c => fail (if Text.isLetter c then .unknownFlag else otherwise) rest 1
  | .escaped _ => fail otherwise rest 2
  | .dangling => failAtBackslash

/-- The rest of the flags to turn off, and what follows their colon. -/
def readFlagsOff (on off : List Flag) : Symbols → Except Fault (FlagGroup × Symbols)
  | [] => fail .missingColon [] 0
  | s :: rest =>
    if s = .plain ':' then
      if .loopless ∈ off then fail .turnsOffGlobalFlag rest 1
      else if off.any on.contains then fail .flagOnAndOff rest 1
      else .ok (.opening on off, rest)
    else match Flag.ofSymbol? s with
      | none => noFlag .missingColon rest s
      | some f =>
        if f.choosesAlphabet then fail .turnsOffAlphabet rest 0
        else readFlagsOff on (f :: off) rest

/-- The flags to turn off, of which there is one at least. -/
def readFirstFlagOff (on : List Flag) : Symbols → Except Fault (FlagGroup × Symbols)
  | [] => fail .missingFlag [] 0
  | s :: rest =>
    match Flag.ofSymbol? s with
    | none => noFlag .missingFlag rest s
    | some _ => readFlagsOff on [] (s :: rest)

/-- The rest of the flags to turn on, and what follows their end: flags to turn
off, a colon, or the closing parenthesis. -/
def readFlagsOn (on : List Flag) : Symbols → Except Fault (FlagGroup × Symbols)
  | [] => fail .unfinishedFlags [] 0
  | s :: rest =>
    if s = .plain ')' then .ok (.whole on, rest)
    else if s = .plain ':' ∨ s = .plain '-' then
      if .loopless ∈ on then fail .turnsOnGlobalFlag rest 1
      else if s = .plain ':' then .ok (.opening on [], rest)
      else readFirstFlagOff on rest
    else match Flag.ofSymbol? s with
      | none => noFlag .unfinishedFlags rest s
      | some f =>
        if f = .byLocale then fail .byteFlag rest 0
        else if f.choosesAlphabet && on.any (fun g => g.choosesAlphabet && g != f) then
          fail .incompatibleFlags rest 0
        else readFlagsOn (f :: on) rest

end Backtracking
end Regex
end RouteTable
