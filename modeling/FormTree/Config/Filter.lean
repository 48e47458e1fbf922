import FormTree.Text.Alphanumeric
import FormTree.Text.Blank

set_option autoImplicit false

/-!
# Logging filters

A logging filter is a comma list of directives. A directive is a level, a target, or a target
with a level behind an equals sign.

Blanks around a directive are ignored where it starts and where its equals sign is looked for,
but the level is taken from the directive as it is written, and from the byte that follows the
equals sign of the directive without blanks. So a directive with a level has no blanks around it;
with a blank of several bytes in front of it, its level may even start inside a character.

## Main definitions

* `FormTree.Filter.isLevel` — the spellings of a level.
* `FormTree.Filter.level?` — where the level of a directive starts.
* `FormTree.Filter.check` — the check of a filter.
-/

namespace FormTree.Filter

/-- Why a filter is not accepted. -/
inductive Flaw where
  /-- A directive has no target, or no level behind its equals sign. -/
  | malformed
  /-- The level of a directive starts inside a character. -/
  | insideCharacter
  deriving DecidableEq, Inhabited

/-! ## Levels -/

/-- The names of the levels. -/
def levels : List String := ["off", "error", "warn", "info", "debug", "trace"]

/-- A number from 0 to 5, with a plus sign or without, and with any zeros in front. -/
def isLevelNumber (text : List Char) : Bool :=
  let digits :=
    match text with
    | '+' :: digits => digits
    | digits => digits
  !digits.isEmpty &&
    match digits.dropWhile (· = '0') with
    | [] => true
    | [digit] => '1' ≤ digit && digit ≤ '5'
    | _ => false

/-- A level is a name in any case, a number from 0 to 5, or nothing. -/
def isLevel (text : List Char) : Bool :=
  text.isEmpty || levels.any (·.toList = text.map Char.toLower) || isLevelNumber text

/-! ## Directives -/

/-- A target starts with a letter, a digit or one of `_`, `-` and `:`. -/
def startsTarget (c : Char) : Bool :=
  c = '_' || c = '-' || c = ':' || Text.isAlphanumeric c

/-- The number of bytes of a text. -/
def byteSize (text : List Char) : Nat := text.foldl (fun size c => size + c.utf8Size) 0

/-- What is left of a text behind its first `size` bytes; nothing if these end inside a character
or the text is shorter. -/
def dropBytes? : Nat → List Char → Option (List Char)
  | 0, text => some text
  | _ + 1, [] => none
  | size + 1, c :: text =>
    if c.utf8Size ≤ size + 1 then dropBytes? (size + 1 - c.utf8Size) text else none

/-- What is left of a directive behind the byte at which its equals sign would stand if the
directive had no blanks in front, where `target` is what precedes that sign. -/
def level? (target directive : List Char) : Option (List Char) :=
  (dropBytes? (byteSize target) directive).bind (dropBytes? 1)

/-- The check of a directive. A word alone is accepted: one that is no level is a target. -/
def checkDirective (directive : List Char) : Except Flaw Unit :=
  match Text.trim directive with
  | [] => .error .malformed
  | c :: rest =>
    if startsTarget c then
      let target := (c :: rest).takeWhile (· ≠ '=')
      if target.length = rest.length + 1 then .ok ()
      else
        match level? target directive with
        | none => .error .insideCharacter
        | some level => if isLevel level then .ok () else .error .malformed
    else .error .malformed

/-! ## Filters -/

/-- The parts of a text between separators. -/
def split (separator : Char) : List Char → List (List Char)
  | [] => [[]]
  | c :: rest =>
    if c = separator then [] :: split separator rest
    else
      match split separator rest with
      | [] => [[c]]
      | part :: more => (c :: part) :: more

/-- The check of a filter: the first flaw of its directives. A directive without any character has
no effect. -/
def check (filter : String) : Except Flaw Unit :=
  ((split ',' filter.toList).filter (· ≠ [])).forM checkDirective

end FormTree.Filter
