import HostProps.Lexer.Blank
import HostProps.Lexer.Keyword
import HostProps.Lexer.Number

/-!
# Reading one token

`Scan.next` reads the token after a cursor.  The parser reads two things by itself, at places where
they can stand: the text of a template up to its end or to the next expression, with
`TemplateText.read`, and a regular expression, with `RegExpLiteral.read`.

Where an escape can make a step longer than a character, the number of steps is bounded by a number
that the caller gives: the number of characters of the text is enough.
-/

namespace HostProps

/-! ### Strings -/

/-- A string literal under way. -/
structure StringLiteral where
  /-- The characters so far, the last first. -/
  value : List Char
  cursor : Cursor
  /-- The first thing that is wrong but does not end it. -/
  fault? : Option Fault
  /-- What is wrong and ends it. -/
  failure? : Option Fault

namespace StringLiteral

/-- Read up to the closing quote, or to the end of the line if there is none; `lo` is where the
string starts. -/
def read (quote : Char) (lo : Nat) : Nat → StringLiteral → StringLiteral
  | 0, s => s
  | limit + 1, s =>
    let unterminated := { s with fault? := s.fault? <|> some ⟨.unterminatedString, lo⟩ }
    match s.cursor.rest with
    | [] => unterminated
    | c :: _ =>
      let after := s.cursor.skip 1
      if c = quote then { s with cursor := after }
      else if c = '\n' || c = '\r' then unterminated
      else if c = '\\' then
        let backslash := s.cursor.position
        match Escape.read after with
        | .ok e =>
          let legacy? := if e.isLegacy then some ⟨.legacyOctal, backslash⟩ else none
          read quote lo limit
            ⟨e.text.reverse ++ s.value, e.cursor, s.fault? <|> legacy?, none⟩
        | .error f => { s with cursor := after, failure? := some ⟨f.cause, backslash⟩ }
      else read quote lo limit { s with value := c :: s.value, cursor := after }

/-- The token that a string literal is, if it starts at a cursor. -/
def token (s : StringLiteral) (start : Cursor) : Token :=
  match s.failure? with
  | some f => .invalid f
  | none => .string (String.ofList s.value.reverse) (start.textTo s.cursor)

end StringLiteral

/-! ### Templates -/

/-- The text of a template between two expressions, under way. -/
structure TemplateText where
  /-- The characters that it stands for, the last first, unless an escape is wrong. -/
  cooked : Except Fault (List Char)
  cursor : Cursor

namespace TemplateText

/-- Add some characters, given last first. -/
def add (t : TemplateText) (chars : List Char) (cursor : Cursor) : TemplateText :=
  ⟨t.cooked.map (chars ++ ·), cursor⟩

/-- Note what is wrong with an escape, and go past its backslash. -/
def addInvalid (t : TemplateText) (cause : Cause) : TemplateText where
  cooked := do
    let _ ← t.cooked
    .error ⟨cause, t.cursor.position⟩
  cursor := t.cursor.skip 1

/-- Read an escape. -/
def addEscape (t : TemplateText) : TemplateText :=
  match Escape.read (t.cursor.skip 1) with
  | .ok e => if e.isLegacy then t.addInvalid .legacyOctal else t.add e.text.reverse e.cursor
  | .error f => t.addInvalid f.cause

/-- Read up to the end of the template or the next expression; `none` if the text ends before. -/
def read : Nat → TemplateText → Option TemplateText
  | 0, _ => none
  | limit + 1, t =>
    match t.cursor.rest with
    | [] => none
    | '\x60' :: _ => some t
    | '$' :: '\x7b' :: _ => some t
    | '\\' :: _ => read limit t.addEscape
    | '\r' :: '\n' :: _ => read limit (t.add ['\n'] (t.cursor.skip 2))
    | c :: _ => read limit (t.add [if c = '\r' then '\n' else c] (t.cursor.skip 1))

end TemplateText

/-! ### Regular expressions -/

/-- A regular expression, and the place after it. -/
structure RegExpLiteral where
  pattern : String
  flags : String
  cursor : Cursor

namespace RegExpLiteral

/-- The pattern after the opening slash: up to a slash that is not escaped and not in brackets. -/
def patternOf (isEscaped inBrackets : Bool) (acc : List Char) : List Char → Option (List Char)
  | [] => none
  | c :: rest =>
    if endsLine c then none
    else if isEscaped then patternOf false inBrackets (c :: acc) rest
    else if c = '/' && !inBrackets then some acc.reverse
    else patternOf (c = '\\') ((c = '[' || inBrackets) && c ≠ ']') (c :: acc) rest

/-- The regular expression that starts with the slash at the cursor. -/
def read (slash : Cursor) : Except Fault RegExpLiteral :=
  match patternOf false false [] (slash.rest.drop 1) with
  | some pattern =>
    let (flags, after) := (slash.skip (pattern.length + 2)).span continuesWord
    .ok ⟨String.ofList pattern, String.ofList flags, after⟩
  | none => .error ⟨.unterminatedRegExp, slash.position⟩

end RegExpLiteral

/-! ### Words and symbols -/

/-- A word under way. -/
structure Word where
  /-- The characters so far, the last first. -/
  chars : List Char
  isEscaped : Bool
  cursor : Cursor
  /-- The first thing that is wrong but does not end it. -/
  fault? : Option Fault
  /-- What is wrong and ends it. -/
  failure? : Option Fault

namespace Word

/-- Read an escape, which stands for a character of the word. -/
def addEscape (w : Word) : Word :=
  let backslash := w.cursor.position
  match w.cursor.rest with
  | _ :: 'u' :: _ =>
    match Escape.unicode (w.cursor.skip 2) with
    | .ok e =>
      let fault? :=
        if e.text.all continuesWord then none else some ⟨.invalidInName, backslash⟩
      { w with
        chars := e.text.reverse ++ w.chars
        isEscaped := true
        cursor := e.cursor
        fault? := w.fault? <|> fault? }
    | .error f => { w with cursor := w.cursor.skip 1, failure? := some f }
  | _ =>
    { w with cursor := w.cursor.skip 1, failure? := some ⟨.unicodeEscapeExpected, backslash⟩ }

/-- Read to the end of a word. -/
def read : Nat → Word → Word
  | 0, w => w
  | limit + 1, w =>
    let (cs, after) := w.cursor.span continuesWord
    let w : Word := { w with chars := cs.reverse ++ w.chars, cursor := after }
    if after.startsWith "\\" then
      let w := w.addEscape
      if w.failure?.isSome then w else read limit w
    else w

/-- The token that a word is, if it starts at a cursor.  A reserved word may not be written with
escapes after its first letter. -/
def token (w : Word) (start : Cursor) : Token :=
  let name := String.ofList w.chars.reverse
  let isPlain := start.startsWith "\\"
  match w.failure? with
  | some f => .invalid f
  | none =>
    if w.isEscaped && !isPlain && isReserved name then
      .invalid ⟨.escapedWord name, start.position⟩
    else .word name isPlain

end Word

/-- The symbols, the longer ones before those that they start with. -/
def symbols : List String :=
  [">>>=", "...", "===", "!==", "**=", "<<=", ">>=", ">>>", "&&=", "||=", "??=", "=>", "==", "!=",
    "<=", ">=", "&&", "||", "??", "++", "--", "+=", "-=", "*=", "/=", "%=", "&=", "|=", "^=",
    "<<", ">>", "**", "\x7b", "\x7d", "(", ")", "[", "]", ";", ",", "<", ">", "+", "-", "*", "/",
    "%", "&", "|", "^", "!", "~", "?", ":", "=", ".", "@", "#", "\x60"]

/-- The symbol that a text starts with. -/
def symbolAt? (cursor : Cursor) : Option String := symbols.find? cursor.startsWith

/-! ### Tokens -/

/-- A token that was read, with what stands before it. -/
structure Scan where
  lexeme : Lexeme
  /-- The place of the token. -/
  before : Cursor
  /-- The place after it. -/
  after : Cursor
  /-- The comments in front of it, the last first. -/
  comments : List Comment
  /-- What is wrong with it, or in front of it, but does not end the reading. -/
  fault? : Option Fault
deriving Inhabited

namespace Scan

/-- The token at a cursor, the place after it, and what is wrong with it. -/
def tokenAt (limit : Nat) (cursor : Cursor) : Token × Cursor × Option Fault :=
  match cursor.rest with
  | [] => (.finish, cursor, none)
  | c :: rest =>
    if startsWord c then
      let w := Word.read limit ⟨[], false, cursor, none, none⟩
      (w.token cursor, w.cursor, w.fault?)
    else if c.isDigit || (c = '.' && rest.head?.any Char.isDigit) then NumberLiteral.read cursor
    else if c = '"' || c = '\'' then
      let s := StringLiteral.read c cursor.position limit ⟨[], cursor.skip 1, none, none⟩
      (s.token cursor, s.cursor, s.fault?)
    else
      match symbolAt? cursor with
      | some s => (.symbol s, cursor.skip s.length, none)
      | none => (.invalid ⟨.unexpectedCharacter c, cursor.position⟩, cursor.skip 1, none)

/-- Read the next token. -/
def next (limit : Nat) (cursor : Cursor) : Scan :=
  let gap := Gap.read false [] cursor.position cursor.rest
  let (token, after, fault?) := tokenAt limit gap.cursor
  { lexeme := ⟨token, ⟨gap.cursor.position, after.position⟩, gap.hasNewline⟩
    before := gap.cursor
    after
    comments := gap.comments
    fault? := gap.fault? <|> fault? }

end Scan

end HostProps
