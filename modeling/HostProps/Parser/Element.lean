import HostProps.Parser.Primary

/-!
# Elements

An element is a tag with attributes, the children after it, and the tag that closes it; a fragment
has no names in its tags.  Between tags and expressions in braces all characters are text, so the
end of a tag is left at hand, and the text is read from the character after it.
-/

namespace HostProps

/-- A character of a name in a tag. -/
def continuesTagName (c : Char) : Bool := continuesWord c || c = '-'

/-- The names of characters that are known in text. -/
def namedCharacters : List (String × Char) :=
  [("quot", '"'), ("amp", '&'), ("apos", '\''), ("lt", '<'), ("gt", '>'), ("nbsp", '\u00a0')]

/-- The character that a reference stands for. -/
def referencedCharacter? (reference : List Char) : Option Char :=
  let code? := match reference with
    | '#' :: 'x' :: digits =>
      if digits.all isHexDigit then some (valueOfDigits 16 digits) else none
    | '#' :: digits => if digits.all Char.isDigit then some (valueOfDigits 10 digits) else none
    | _ => none
  match code? with
  | some code => some (Char.ofNat code)
  | none => (namedCharacters.find? (·.1 == String.ofList reference)).map (·.2)

/-- A text with its references replaced; `pending` holds the characters since the last ampersand,
the last first, if a semicolon may still follow. -/
def resolveReferences (pending : Option (List Char)) : List Char → List Char
  | [] => pending.elim [] fun cs => '&' :: cs.reverse
  | c :: rest =>
    match pending with
    | none => if c = '&' then resolveReferences (some []) rest else c :: resolveReferences none rest
    | some cs =>
      if c = ';' then
        match referencedCharacter? cs.reverse with
        | some known => known :: resolveReferences none rest
        | none => '&' :: (cs.reverse ++ ';' :: resolveReferences none rest)
      else if c = '&' then '&' :: (cs.reverse ++ resolveReferences (some []) rest)
      else resolveReferences (some (c :: cs)) rest

namespace Parser

/-! ### Tags -/

/-- Is a token at hand that starts with a character?  In a tag, every symbol is a single one. -/
def atMark (c : Char) : Parser Bool := return (← get).before.rest.head? == some c

/-- Go past a single character that must be at hand. -/
def expectMark (c : Char) : Parser Unit := do
  let r ← get
  if r.before.rest.head? == some c then
    goTo ⟨r.before.position, r.before.position + 1⟩ (r.before.skip 1)
  else failExpected c.toString

/-- Where the mark at hand, a single character, ends. -/
def markEnd : Parser Nat := return (← get).before.position + 1

/-- Read a word of a tag. -/
def tagWord : Parser (String × Span) := do
  match ← someToken with
  | .word _ _ =>
    let r ← get
    let (cs, after) := r.before.span continuesTagName
    let s : Span := ⟨r.before.position, after.position⟩
    goTo s after
    return (String.ofList cs, s)
  | _ => failHere .nameExpected

/-- Read a name of a tag, to which names of members may be added. -/
def tagMembers : Nat → Node → Parser Node
  | 0, n => return n
  | k + 1, n => do
    if ← eat "." then
      let (name, s) ← tagWord
      tagMembers k (.plain .jsxMember (.written (n.span.through s)) [n, .mk (.name s name) []])
    else return n

/-- Read the name of an element. -/
def tagName : Parser Node := do
  let (name, s) ← tagWord
  if ← eat ":" then
    let (second, t) ← tagWord
    return .plain .jsxNamespacedName (.written (s.through t))
      [.mk (.name s name) [], .mk (.name t second) []]
  else tagMembers (← get).limit (.mk (.reference (.written s) name) [])

mutual

/-- The name of an element as it is written. -/
def tagText : Node → String
  | .mk h ps =>
    match h, tagTexts ps with
    | .reference _ text, _ => text
    | .name _ text, _ => text
    | .plain .jsxMember _, [target, property] => target ++ "." ++ property
    | .plain .jsxNamespacedName _, [first, second] => first ++ ":" ++ second
    | _, _ => ""

/-- The names of some elements as they are written. -/
def tagTexts : List Node → List String
  | [] => []
  | n :: ns => tagText n :: tagTexts ns

end

/-- Read the name of an attribute. -/
def attributeName : Parser Node := do
  let (name, s) ← tagWord
  if ← eat ":" then
    let (second, t) ← tagWord
    return .plain .jsxNamespacedName (.written (s.through t))
      [.mk (.name s name) [], .mk (.name t second) []]
  else return .mk (.name s name) []

/-- Read an expression in braces, up to the closing brace, which is left at hand. -/
def container (inner : Inner) : Parser Node := do
  let lo ← position
  expectMark '\x7b'
  let content ← if ← isSymbol "\x7d" then do
      let here ← position
      pure (Node.plain .jsxEmpty (.written ⟨here, here⟩) [])
    else allowingIn (inner .expression)
  unless ← isSymbol "\x7d" do failExpected "\x7d"
  return .plain .jsxContainer (.written ⟨lo, ← markEnd⟩) [content]

/-- The text in quotes at a place, if quotes are there. -/
def quoted? (start : Cursor) : Option (Node × Span × Cursor) :=
  match start.rest with
  | quote :: _ =>
    if quote = '"' || quote = '\'' then
      let (cs, close) := (start.skip 1).span (· ≠ quote)
      let after := close.skip 1
      let s : Span := ⟨start.position, after.position⟩
      let value := String.ofList (resolveReferences none cs)
      some (.mk (.string s value (some (start.textTo after))) [], s, after)
    else none
  | [] => none

/-- Read the value of an attribute after `=`, which is at hand. -/
def attributeValue (inner : Inner) : Parser Node := do
  let r ← get
  let equals := r.before.skip 1
  match quoted? (Gap.read false [] equals.position equals.rest).cursor with
  | some (value, s, after) =>
    goTo s after
    return value
  | none =>
    expectMark '='
    if ← isSymbol "\x7b" then
      let value ← container inner
      expectMark '\x7d'
      return value
    else
      let value ← inner .element
      expectMark '>'
      return value

/-- Read an attribute. -/
def tagAttribute (inner : Inner) : Parser Node := do
  if ← eat "\x7b" then
    let lo ← position
    expect "..."
    let dots ← spanFrom lo
    let e ← allowingIn (inner .assignment)
    expectMark '\x7d'
    return .mk (.spread dots) [e]
  else
    let lo ← position
    let name ← attributeName
    let hasValue ← atMark '='
    let value ← optionalPart hasValue (attributeValue inner)
    finish .jsxAttribute lo [name, value]

/-! ### Children -/

/-- Read the text at a place, and go on to the tag or the brace after it. -/
def elementText (start : Cursor) : Parser (List Node) := do
  let (cs, after) := start.span fun c => c ≠ '<' && c ≠ '\x7b'
  let s : Span := ⟨start.position, after.position⟩
  goTo s after
  if cs.isEmpty then return []
  else
    let value := String.ofList (resolveReferences none cs)
    return [.mk (.jsxText s value (start.textTo after)) []]

/-- Is the start of a closing tag at hand? -/
def atClosingTag : Parser Bool := do
  match (← get).before.rest with
  | '<' :: '/' :: _ => return true
  | _ => return false

/-- Read a child that is not text, up to its last character, which is left at hand. -/
def child (inner : Inner) : Parser Node := do
  match (← someToken), (← peek).token with
  | .symbol "\x7b", .symbol "..." =>
    let lo ← position
    expectMark '\x7b'
    expect "..."
    let e ← allowingIn (inner .expression)
    unless ← isSymbol "\x7d" do failExpected "\x7d"
    return .plain .jsxSpreadChild (.written ⟨lo, ← markEnd⟩) [e]
  | .symbol "\x7b", _ => container inner
  | _, _ => inner .element

/-- Read the children of an element from the character after the one at hand, in no more than a
number of steps.  The start of the closing tag is left at hand. -/
def children (inner : Inner) : Nat → List Node → Parser (List Node)
  | 0, acc => return acc.reverse
  | n + 1, acc => do
    let text ← elementText ((← get).before.skip 1)
    let acc := text ++ acc
    if ← atClosingTag then return acc.reverse
    else
      let next ← child inner
      children inner n (next :: acc)

/-! ### Elements -/

/-- Go past the start of a closing tag. -/
def openClosingTag : Parser Unit := do
  expectMark '<'
  expectMark '/'

/-- Read a fragment after the `<` at a position. -/
def fragment (inner : Inner) (lo : Nat) : Parser Node := do
  let opening : Node := .plain .jsxOpeningFragment (.written ⟨lo, ← markEnd⟩) []
  let items ← children inner (← get).limit []
  let closingLo ← position
  openClosingTag
  unless ← atMark '>' do failExpected ">"
  let hi ← markEnd
  let closing : Node := .plain .jsxClosingFragment (.written ⟨closingLo, hi⟩) []
  return .plain .jsxFragment (.written ⟨lo, hi⟩) [opening, .list items, closing]

/-- Read an element or a fragment up to the end of its last tag, which is left at hand. -/
def element (inner : Inner) : Parser Node := do
  let lo ← position
  expectMark '<'
  if ← atMark '>' then fragment inner lo
  else
    let name ← tagName
    let attributes ← collect (do return (← atMark '>') || (← atMark '/') || (← isFinish))
      (tagAttribute inner)
    let isSelfClosing ← atMark '/'
    if isSelfClosing then expectMark '/'
    unless ← atMark '>' do failExpected ">"
    let opening : Node :=
      .mk (.jsxOpening (.written ⟨lo, ← markEnd⟩) isSelfClosing) [name, .list attributes]
    if isSelfClosing then
      return .plain .jsxElement (.written ⟨lo, ← markEnd⟩) [opening, .list [], .absent]
    else
      let items ← children inner (← get).limit []
      let closingLo ← position
      openClosingTag
      let closingName ← tagName
      unless ← atMark '>' do failExpected ">"
      unless tagText closingName == tagText name do
        fail (.closingTagExpected (tagText name)) closingLo
      let hi ← markEnd
      let closing : Node := .plain .jsxClosing (.written ⟨closingLo, hi⟩) [closingName]
      return .plain .jsxElement (.written ⟨lo, hi⟩) [opening, .list items, closing]

/-- Read an element as an expression. -/
def elementExpression (inner : Inner) : Parser Node := do
  let e ← element inner
  expectMark '>'
  return e

end Parser

end HostProps
