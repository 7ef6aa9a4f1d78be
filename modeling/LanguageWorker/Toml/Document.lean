import LanguageWorker.Toml.Entries
import LanguageWorker.Toml.Scalar

namespace LanguageWorker.Toml

/-! Reading a TOML 1.1 document. -/

/-- A reader of the front of a document. -/
abbrev Reader := StateT (List Char) (Except Malformed)

/-- How many arrays and inline tables may be open inside one another. -/
def nestingLimit : Nat := 80

/-- How many parts a key may have. -/
def keyPartLimit : Nat := 80

namespace Reader

def fail {α : Type} (cause : Malformed) : Reader α := throw cause

/-- Fail at the character in front, or at the end. -/
def unexpected {α : Type} : Reader α := do
  match (← get).head? with
  | none => fail .unexpectedEnd
  | some character => fail (.unexpectedCharacter character)

def advance (count : Nat) : Reader Unit := modify (List.drop count)

/-- Pass one given character. -/
def expect (character : Char) : Reader Unit := do
  if (← get).head? = some character then advance 1 else unexpected

/-- Control characters other than the tab. -/
def isControl (character : Char) : Bool :=
  (character.toNat < 0x20 && character ≠ '\t') || character.toNat = 0x7F

def skipSpaces : Reader Unit :=
  modify (List.dropWhile fun character => character = ' ' || character = '\t')

/-- Pass a line ending, if there is one. -/
def lineEnding : Reader Bool := do
  match (← get) with
  | '\n' :: rest =>
      set rest
      return true
  | '\r' :: '\n' :: rest =>
      set rest
      return true
  | _ => return false

/-- Pass a comment, if one begins here. -/
def skipComment : Reader Unit := do
  match (← get) with
  | '#' :: text =>
      let (comment, rest) := text.span fun character => character ≠ '\n' && character ≠ '\r'
      if comment.any isControl then fail .controlCharacter
      set rest
  | _ => return ()

/-- Pass blanks, comments and line endings. -/
def skipLines : (fuel : Nat) → Reader Unit
  | 0 => return ()
  | fuel + 1 => do
      skipSpaces
      skipComment
      if ← lineEnding then skipLines fuel

def skipBlankLines : Reader Unit := do skipLines ((← get).length + 1)

/-- Pass what may follow a statement on its line. -/
def endOfLine : Reader Unit := do
  skipSpaces
  skipComment
  if (← get).isEmpty then return ()
  if ← lineEnding then return ()
  unexpected

/-! Strings. -/

/-- The character with the number that some hexadecimal digits write. -/
def escapedCodePoint (count : Nat) : Reader Char := do
  let digits := (← get).take count
  if digits.length = count && digits.all isHexDigit then
    advance count
    let code := valueInBase 16 digits
    if code.isValidChar then return Char.ofNat code else fail .invalidEscape
  else fail .invalidEscape

/-- The character of an escape, behind its backslash. -/
def escape : Reader Char := do
  match (← get) with
  | [] => fail .unexpectedEnd
  | letter :: rest =>
      set rest
      match letter with
      | '"' => return '"'
      | '\\' => return '\\'
      | 'b' => return '\x08'
      | 't' => return '\t'
      | 'n' => return '\n'
      | 'f' => return '\x0c'
      | 'r' => return '\r'
      | 'e' => return '\x1b'
      | 'x' => escapedCodePoint 2
      | 'u' => escapedCodePoint 4
      | 'U' => escapedCodePoint 8
      | _ => fail .invalidEscape

/-- A string in double quotes on one line, behind its opening quote. -/
def basicString : (fuel : Nat) → (sofar : List Char) → Reader String
  | 0, _ => fail .unexpectedEnd
  | fuel + 1, sofar => do
      match (← get) with
      | [] => fail .unexpectedEnd
      | character :: _ =>
          advance 1
          if character = '"' then return String.ofList sofar.reverse
          else if character = '\\' then
            let meant ← escape
            basicString fuel (meant :: sofar)
          else if isControl character then fail .controlCharacter
          else basicString fuel (character :: sofar)

/-- A string in single quotes on one line, behind its opening quote. -/
def literalString : Reader String := do
  let (content, rest) := (← get).span (· ≠ '\'')
  if rest.isEmpty then fail .unexpectedEnd
  if content.any isControl then fail .controlCharacter
  set (rest.drop 1)
  return String.ofList content

/-- Pass the blanks and line endings behind a backslash that ends a line. -/
def skipFolded : (fuel : Nat) → Reader Unit
  | 0 => return ()
  | fuel + 1 => do
      skipSpaces
      if ← lineEnding then skipFolded fuel

/-- A string over several lines, behind its opening quotes. Up to two quotes may
stand directly before the closing three. -/
def longString (quote : Char) (escapes : Bool) :
    (fuel : Nat) → (sofar : List Char) → Reader String
  | 0, _ => fail .unexpectedEnd
  | fuel + 1, sofar => do
      match (← get) with
      | [] => fail .unexpectedEnd
      | character :: rest =>
          if character = quote then
            let quotes := (rest.takeWhile (· = quote)).length + 1
            if quotes < 3 then
              advance quotes
              longString quote escapes fuel (List.replicate quotes quote ++ sofar)
            else
              let kept := min (quotes - 3) 2
              advance (kept + 3)
              return String.ofList (List.replicate kept quote ++ sofar).reverse
          else if escapes && character = '\\' then
            advance 1
            let folded := rest.dropWhile fun space => space = ' ' || space = '\t'
            if folded.head? = some '\n' || folded.take 2 = ['\r', '\n'] then
              skipFolded (rest.length + 1)
              longString quote escapes fuel sofar
            else
              let meant ← escape
              longString quote escapes fuel (meant :: sofar)
          else if character = '\n' then
            advance 1
            longString quote escapes fuel ('\n' :: sofar)
          else if character = '\r' && rest.head? = some '\n' then
            advance 2
            longString quote escapes fuel ('\n' :: '\r' :: sofar)
          else if isControl character then fail .controlCharacter
          else
            advance 1
            longString quote escapes fuel (character :: sofar)

/-- A string whose opening quote is in sight. -/
def string : Reader String := do
  let text ← get
  let fuel := text.length + 1
  match text with
  | '"' :: '"' :: '"' :: _ =>
      advance 3
      discard lineEnding
      longString '"' true fuel []
  | '\'' :: '\'' :: '\'' :: _ =>
      advance 3
      discard lineEnding
      longString '\'' false fuel []
  | '"' :: _ =>
      advance 1
      basicString fuel []
  | _ =>
      advance 1
      literalString

/-! Keys. -/

def isBareKeyCharacter (character : Char) : Bool :=
  character.isAlphanum || character = '_' || character = '-'

/-- One part of a key: bare, or a string on one line. -/
def simpleKey : Reader String := do
  let text ← get
  match text with
  | '"' :: _ =>
      advance 1
      basicString (text.length + 1) []
  | '\'' :: _ =>
      advance 1
      literalString
  | _ =>
      let (name, rest) := text.span isBareKeyCharacter
      if name.isEmpty then unexpected
      set rest
      return String.ofList name

/-- A key of one or more parts, at most `limit`: those before the last, and the
last. -/
def dottedKey : (limit : Nat) → Reader (List String × String)
  | 0 => fail .tooDeep
  | limit + 1 => do
      skipSpaces
      let name ← simpleKey
      skipSpaces
      if (← get).head? = some '.' then
        advance 1
        let (path, last) ← dottedKey limit
        return (name :: path, last)
      else return ([], name)

def key : Reader (List String × String) := dottedKey keyPartLimit

/-! Values. -/

def isTokenCharacter (character : Char) : Bool :=
  character.isAlphanum || ['+', '-', '_', '.', ':'].contains character

/-- A value without quotes. A date may be parted from its time by a space. -/
def token : Reader Toml := do
  let (front, rest) := (← get).span isTokenCharacter
  let (token, rest) :=
    match rest with
    | ' ' :: digit :: _ =>
        if digit.isDigit && ((date? front).map Prod.snd) = some [] then
          let (time, rest) := (rest.drop 1).span isTokenCharacter
          (front ++ ' ' :: time, rest)
        else (front, rest)
    | _ => (front, rest)
  if token.isEmpty then unexpected
  set rest
  match ofToken token with
  | .error cause => fail cause
  | .ok value => return value

/-- The items of an array up to its closing bracket. -/
def arrayItems (item : Reader Toml) : (fuel : Nat) → Reader (List Toml)
  | 0 => fail .unexpectedEnd
  | fuel + 1 => do
      skipBlankLines
      if (← get).head? = some ']' then
        advance 1
        return []
      let value ← item
      skipBlankLines
      match (← get).head? with
      | some ',' =>
          advance 1
          let others ← arrayItems item fuel
          return value :: others
      | some ']' =>
          advance 1
          return [value]
      | _ => unexpected

/-- Write a value under a dotted key. -/
def define (path : List String) (last : String) (value : Toml) (entries : Entries) :
    Reader Entries :=
  match entries.within true (Entries.define last value) path with
  | .error cause => fail cause
  | .ok entries => return entries

/-- The members of an inline table up to its closing brace. Lines may end
anywhere between their parts, but not inside a key. -/
def inlineMembers (item : Reader Toml) : (fuel : Nat) → Entries → Reader Entries
  | 0, _ => fail .unexpectedEnd
  | fuel + 1, entries => do
      skipBlankLines
      if (← get).head? = some '\x7d' then
        advance 1
        return entries
      let (path, last) ← key
      skipBlankLines
      expect '='
      skipBlankLines
      let value ← item
      let entries ← define path last value entries
      skipBlankLines
      match (← get).head? with
      | some ',' =>
          advance 1
          inlineMembers item fuel entries
      | some '\x7d' =>
          advance 1
          return entries
      | _ => unexpected

/-- A value, with as many arrays and inline tables inside one another as
`nesting` allows. -/
def value : (nesting : Nat) → Reader Toml
  | 0 => do
      match (← get).head? with
      | some '"' => return .string (← string)
      | some '\'' => return .string (← string)
      | some '[' => fail .tooDeep
      | some '\x7b' => fail .tooDeep
      | _ => token
  | nesting + 1 => do
      let text ← get
      match text.head? with
      | some '"' => return .string (← string)
      | some '\'' => return .string (← string)
      | some '[' =>
          advance 1
          return .array (← arrayItems (value nesting) (text.length + 1))
      | some '\x7b' =>
          advance 1
          let entries ← inlineMembers (value nesting) (text.length + 1) []
          return .ofMembers (finishedEntries entries)
      | _ => token

/-! Statements. -/

/-- What has been read of a document: its entries, and the table that the next
keys belong to. -/
structure Progress where
  entries : Entries
  header : List String

/-- Put a table in place for a header. -/
def openHeader (change : String → Entries → Except Malformed Entries)
    (path : List String) (last : String) (progress : Progress) : Reader Progress :=
  match progress.entries.within false (change last) path with
  | .error cause => fail cause
  | .ok entries => return { entries, header := path ++ [last] }

/-- A key and its value. -/
def keyValue (progress : Progress) : Reader Progress := do
  let (path, last) ← key
  expect '='
  skipSpaces
  let value ← value nestingLimit
  let written := progress.entries.within false
    (Entries.within true (Entries.define last value) path) progress.header
  match written with
  | .error cause => fail cause
  | .ok entries => return { progress with entries }

/-- One line, or several where a value goes on over them. -/
def statement (progress : Progress) : Reader Progress := do
  skipSpaces
  let progress ← match (← get) with
    | '[' :: '[' :: _ =>
        advance 2
        let (path, last) ← key
        expect ']'
        expect ']'
        openHeader Entries.openNextTable path last progress
    | '[' :: _ =>
        advance 1
        let (path, last) ← key
        expect ']'
        openHeader Entries.openTable path last progress
    | [] => pure progress
    | character :: _ =>
        if ['#', '\n', '\r'].contains character then pure progress else keyValue progress
  endOfLine
  return progress

/-- All statements. -/
def statements : (fuel : Nat) → Progress → Reader Progress
  | 0, progress => return progress
  | fuel + 1, progress => do
      if (← get).isEmpty then return progress
      let progress ← statement progress
      statements fuel progress

end Reader

/-- The root table of a document. A byte order mark in front is passed. -/
def parse (text : String) : Except Malformed Toml := do
  let text := match text.toList with
    | '\ufeff' :: rest => rest
    | text => text
  let (progress, _) ← (Reader.statements (text.length + 1) ⟨[], []⟩).run text
  return .ofMembers (finishedEntries progress.entries)

end LanguageWorker.Toml
