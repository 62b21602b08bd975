import TechniquePages.Text

/-!
# Patterns

The regular expressions that a schema may ask a text to match.  A pattern
matches a text when it fits some part of it; the marks for start and end bind
it to the ends.

Matching a pattern from a point in a text gives all points at which it may
end.  That is a recursion on the pattern; a repetition is followed for at most
as many rounds as there are characters left, since a round that takes no
character reaches nothing new.
-/

namespace TechniquePages.Schema

/-- A part of a character class. -/
inductive ClassItem where
  | range (first last : Char)
  | digit
  | notDigit
  | word
  | notWord
  | space
  | notSpace
  deriving DecidableEq

/-- A regular expression. -/
inductive Pattern where
  | nothing
  | oneOf (negated : Bool) (items : List ClassItem)
  | anyCharacter
  | start
  | finish
  | boundary (negated : Bool)
  | sequence (first second : Pattern)
  | choice (first second : Pattern)
  | repeated (body : Pattern) (least : Nat) (most : Option Nat)
  | ahead (negated : Bool) (body : Pattern)
  deriving DecidableEq

namespace Pattern

/-- A digit of the basic alphabet. -/
def isDigit (character : Char) : Bool := character.isDigit

/-- A letter, a digit or the underscore of the basic alphabet. -/
def isWord (character : Char) : Bool :=
  character.isAlphanum || character == '_'

/-- The blanks that a pattern's class of blanks holds. -/
def isSpace (character : Char) : Bool :=
  [' ', '\t', '\n', '\r', '\x0b', '\x0c', '\u2003', '\ufeff', '\u2029', '\u00a0'].contains character

/-- The character belongs to a part of a class. -/
def itemHolds (character : Char) : ClassItem → Bool
  | .range first last => first ≤ character && character ≤ last
  | .digit => isDigit character
  | .notDigit => !isDigit character
  | .word => isWord character
  | .notWord => !isWord character
  | .space => isSpace character
  | .notSpace => !isSpace character

/-- A point in a text: the character before it and the characters after it. -/
structure Point where
  before : Option Char
  after : Text
  deriving DecidableEq

/-- Keep one of the points that lie at the same distance from the end. -/
def distinct : List Point → List Point
  | [] => []
  | point :: rest =>
    let others := distinct rest
    if others.any fun other => other.after.length == point.after.length then others
    else point :: others

/-- The point behind the next character, if that character is wanted. -/
def step (wanted : Char → Bool) (point : Point) : List Point :=
  match point.after with
  | [] => []
  | character :: rest => if wanted character then [⟨some character, rest⟩] else []

/-- Apply a step a number of times. -/
def iterate (next : Point → List Point) : Nat → List Point → List Point
  | 0, points => points
  | count + 1, points => iterate next count (distinct (points.flatMap next))

/-- Apply a step any number of times up to a limit. -/
def iterateUpTo (next : Point → List Point) : Nat → List Point → List Point
  | 0, points => points
  | count + 1, points =>
    distinct (points ++ iterateUpTo next count (distinct (points.flatMap next)))

/-- A word begins or ends at the point. -/
def atBoundary (point : Point) : Bool :=
  (point.before.map isWord).getD false != (point.after.head?.map isWord).getD false

/-- The points at which a match from a point may end. -/
def ends : Pattern → Point → List Point
  | .nothing, point => [point]
  | .oneOf negated items, point =>
    step (fun character => (items.any (itemHolds character)) != negated) point
  | .anyCharacter, point => step (· != '\n') point
  | .start, point => if point.before.isNone then [point] else []
  | .finish, point => if point.after.isEmpty then [point] else []
  | .boundary negated, point => if atBoundary point != negated then [point] else []
  | .sequence first second, point => distinct ((ends first point).flatMap (ends second))
  | .choice first second, point => distinct (ends first point ++ ends second point)
  | .repeated body least most, point =>
    let reached := iterate (ends body) least [point]
    match most with
    | some most => iterateUpTo (ends body) (most - least) reached
    | none => iterateUpTo (ends body) point.after.length reached
  | .ahead negated body, point =>
    if (ends body point).isEmpty == negated then [point] else []

/-- The pattern fits at some point of a text, given the character before the text. -/
def fitsFrom (pattern : Pattern) (before : Option Char) : Text → Bool
  | [] => !(ends pattern ⟨before, []⟩).isEmpty
  | character :: rest =>
    !(ends pattern ⟨before, character :: rest⟩).isEmpty ||
      fitsFrom pattern (some character) rest

/-- The pattern fits some part of the text. -/
def fits (pattern : Pattern) (text : Text) : Bool :=
  fitsFrom pattern none text

/-!
## Written patterns

The written form of a pattern: choices of sequences of repeated atoms.  An
atom is a character, a class in brackets, a group in parentheses, a mark or an
escape.  What does not have this form is no pattern.
-/

/-- The pattern of a single character. -/
def literal (character : Char) : Pattern :=
  .oneOf false [.range character character]

/-- The character that hexadecimal digits number, if there is one. -/
def numbered? (digits : Text) : Option Char :=
  let number := Text.numberOf Text.hexValue? 16 digits
  if number.isValidChar && digits.all fun digit => (Text.hexValue? digit).isSome then
    some (Char.ofNat number)
  else none

/-- The class that a letter after a backslash stands for. -/
def escapedClass? (letter : Char) : Option ClassItem :=
  if letter = 'd' then some .digit
  else if letter = 'D' then some .notDigit
  else if letter = 'w' then some .word
  else if letter = 'W' then some .notWord
  else if letter = 's' then some .space
  else if letter = 'S' then some .notSpace
  else none

/-- The character that follows a backslash, and what follows it. -/
def escapedCharacter? : Text → Option (Char × Text)
  | [] => none
  | letter :: rest =>
    if letter = 'n' then some ('\n', rest)
    else if letter = 'r' then some ('\r', rest)
    else if letter = 't' then some ('\t', rest)
    else if letter = 'f' then some ('\x0c', rest)
    else if letter = 'v' then some ('\x0b', rest)
    else if letter = 'x' || letter = 'u' then do
      let length := if letter = 'x' then 2 else 4
      if rest.length < length then none
      else
        let character ← numbered? (rest.take length)
        some (character, rest.drop length)
    else if letter.isAlphanum then none
    else some (letter, rest)

/-- One member of a class: a class of its own or a character. -/
def classMember? : Text → Option ((ClassItem ⊕ Char) × Text)
  | [] => none
  | character :: rest =>
    if character = '\\' then
      match rest with
      | [] => none
      | letter :: more =>
        match escapedClass? letter with
        | some item => some (.inl item, more)
        | none =>
          if letter = 'b' then some (.inr '\x08', more)
          else (escapedCharacter? rest).map fun (read, after) => (.inr read, after)
    else some (.inr character, rest)

/-- The members of a class up to its closing bracket. -/
def classItems? : (fuel : Nat) → (atStart : Bool) → Text → Option (List ClassItem × Text)
  | 0, _, _ => none
  | _ + 1, _, [] => none
  | fuel + 1, atStart, character :: rest =>
    if character = ']' && !atStart then some ([], rest)
    else do
      let (member, after) ← classMember? (character :: rest)
      match member with
      | .inl item =>
        let (items, rest) ← classItems? fuel false after
        some (item :: items, rest)
      | .inr first =>
        match after with
        | '-' :: next :: more =>
          if next = ']' then do
            let (items, rest) ← classItems? fuel false after
            some (.range first first :: items, rest)
          else
            let (last, after) ← classMember? (next :: more)
            match last with
            | .inl _ => none
            | .inr last =>
              if last < first then none
              else
                let (items, rest) ← classItems? fuel false after
                some (.range first last :: items, rest)
        | _ =>
          let (items, rest) ← classItems? fuel false after
          some (.range first first :: items, rest)

/-- A natural at the start, and what follows it. -/
def natural? (text : Text) : Option (Nat × Text) :=
  let digits := text.takeWhile Char.isDigit
  if digits.isEmpty then none
  else some (Text.numberOf Text.decimalValue? 10 digits, text.dropWhile Char.isDigit)

/-- The bounds between braces, and what follows the closing brace. -/
def bounds? (text : Text) : Option (Nat × Option Nat × Text) := do
  let (least, rest) ← natural? text
  match rest with
  | '\x7d' :: after => some (least, some least, after)
  | ',' :: '\x7d' :: after => some (least, none, after)
  | ',' :: more =>
    let (most, after) ← natural? more
    match after with
    | '\x7d' :: after => if most < least then none else some (least, some most, after)
    | _ => none
  | _ => none

/-- A mark that asks for the shortest match; it does not change whether there is one. -/
def dropLazy : Text → Text
  | '?' :: rest => rest
  | text => text

/-- An atom with the repetition that may follow it. -/
def repetition? (atom : Pattern) (text : Text) : Option (Pattern × Text) :=
  match text with
  | '*' :: rest => some (.repeated atom 0 none, dropLazy rest)
  | '+' :: rest => some (.repeated atom 1 none, dropLazy rest)
  | '?' :: rest => some (.repeated atom 0 (some 1), dropLazy rest)
  | '\x7b' :: rest =>
    (bounds? rest).map fun (least, most, after) => (.repeated atom least most, dropLazy after)
  | _ => some (atom, text)

mutual

/-- Sequences with bars between them. -/
def choice? : (fuel : Nat) → Text → Option (Pattern × Text)
  | 0, _ => none
  | fuel + 1, text => do
    let (first, rest) ← sequence? fuel text
    match rest with
    | '|' :: more =>
      let (second, after) ← choice? fuel more
      some (.choice first second, after)
    | _ => some (first, rest)

/-- Repeated atoms up to a bar, a closing parenthesis or the end. -/
def sequence? : (fuel : Nat) → Text → Option (Pattern × Text)
  | 0, _ => none
  | _ + 1, [] => some (.nothing, [])
  | fuel + 1, character :: rest =>
    if character = '|' || character = ')' then some (.nothing, character :: rest)
    else do
      let (atom, after) ← atom? fuel (character :: rest)
      let (first, after) ← repetition? atom after
      let (second, after) ← sequence? fuel after
      some (.sequence first second, after)

/-- A character, a class, a group, a mark or an escape. -/
def atom? : (fuel : Nat) → Text → Option (Pattern × Text)
  | 0, _ => none
  | _ + 1, [] => none
  | fuel + 1, character :: rest =>
    let group (wrap : Pattern → Pattern) (inside : Text) : Option (Pattern × Text) := do
      let (body, after) ← choice? fuel inside
      match after with
      | ')' :: after => some (wrap body, after)
      | _ => none
    if character = '.' then some (.anyCharacter, rest)
    else if character = '^' then some (.start, rest)
    else if character = '$' then some (.finish, rest)
    else if "*+?\x7b".toList.contains character then none
    else if character = '(' then
      match rest with
      | '?' :: ':' :: inside => group id inside
      | '?' :: '=' :: inside => group (.ahead false) inside
      | '?' :: '!' :: inside => group (.ahead true) inside
      | '?' :: _ => none
      | inside => group id inside
    else if character = '[' then
      match rest with
      | '^' :: inside =>
        (classItems? (inside.length + 1) true inside).map fun (items, after) =>
          (.oneOf true items, after)
      | inside =>
        (classItems? (inside.length + 1) true inside).map fun (items, after) =>
          (.oneOf false items, after)
    else if character = '\\' then
      match rest with
      | [] => none
      | letter :: more =>
        match escapedClass? letter with
        | some item => some (.oneOf false [item], more)
        | none =>
          if letter = 'b' then some (.boundary false, more)
          else if letter = 'B' then some (.boundary true, more)
          else (escapedCharacter? rest).map fun (read, after) => (literal read, after)
    else some (literal character, rest)

end

/-- The pattern that a text writes. -/
def ofText? (text : Text) : Option Pattern := do
  let (pattern, rest) ← choice? (2 * text.length + 3) text
  if rest.isEmpty then some pattern else none

example : ((ofText? "^T\\d\x7b4\x7d(\\.\\d\x7b3\x7d)?$".toList).map
    fun pattern => (pattern.fits "T1003.001".toList, pattern.fits "T1003.1".toList)) =
    some (true, false) := by decide +kernel

end Pattern

end TechniquePages.Schema
