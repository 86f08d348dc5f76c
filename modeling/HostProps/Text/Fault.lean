import HostProps.Text.Point
import HostProps.Text.Quoted

/-!
# Faults in a text

A fault is what is wrong with a text, and the position where.  Some faults leave it open how the
text goes on, so reading ends there; others are noted while reading goes on.  `Fault.failure` turns
the fault that is reported in the end into words.
-/

namespace HostProps

/-- What is wrong with a text. -/
inductive Cause where
  | expressionExpected
  /-- The text ends where something has to follow. -/
  | unexpectedEnd
  /-- Something follows a statement on its line. -/
  | statementEndExpected
  | semicolonExpected
  | nameExpected
  | expected (what got : String)
  | unexpected (got expected : String)
  | unexpectedCharacter (c : Char)
  | unterminatedString
  | unterminatedComment
  | unterminatedRegExp
  | unterminatedTemplate
  /-- An escape that does not go on as it has to. -/
  | badEscape (expected : String)
  | bracedEscapeNotClosed
  | unicodeEscapeExpected
  | invalidInName
  | legacyOctal
  | legacyDecimal
  | nameAfterNumber
  | numberExpected
  | constantWithoutValue
  | patternWithoutValue
  | trailingComma
  | commaAfterRest
  | restNotLast
  | targetInvalid
  | notAssignable
  | notPattern
  | nameWithValueInObject
  | declarationNotAllowed
  | awaitOutsideAsync
  | awaitAsName
  | awaitWithStar
  | forAwaitNotOf
  | reservedName (name : String)
  | reservedBinding
  | escapedWord (name : String)
  | exportWithoutSource (name : String)
  | importedString (value : String)
  | exportedString
  | importInScript
  | withNotAllowed
  | deleteOfName
  | powerOfUnary
  | mixedCoalescing
  | emptyParentheses
  | spreadInParentheses
  | arrowNotAllowed
  | newlineBeforeArrow
  | newlineAfterThrow
  | severalDefaults
  | severalLoopVariables
  | loopVariableWithValue
  | breakOutside
  | breakLabelUnknown
  | continueOutside
  | continueLabelUnknown
  | duplicateLabel (name : String)
  | labelledFunction
  | setterParameters
  | chainAfterNew
  | templateInChain
  | regExpFlags
  | severalConstructors
  | closingTagExpected (name : String)
deriving DecidableEq, Inhabited, Repr

/-- Is something wrong in modules only, since they are strict? -/
def Cause.isOfStrictness : Cause → Bool
  | legacyOctal | legacyDecimal | reservedName _ | reservedBinding | withNotAllowed
  | deleteOfName => true
  | _ => false

/-- A character in quotes, with what cannot be shown written as an escape. -/
def Quoted.single (c : Char) : String :=
  "'" ++ (if c = '\'' then "\\'" else if c = '"' then "\"" else Quoted.char c) ++ "'"

/-- What is wrong, in words. -/
def Cause.message : Cause → String
  | expressionExpected => "Expression expected"
  | unexpectedEnd => "Unexpected eof"
  | statementEndExpected => "Expected ';', '\x7d' or <eof>"
  | semicolonExpected => "Expected a semicolon"
  | nameExpected => "Expected ident"
  | expected what got => "Expected '" ++ what ++ "', got '" ++ got ++ "'"
  | unexpected got wanted => "Unexpected token \x60" ++ got ++ "\x60. Expected " ++ wanted
  | unexpectedCharacter c => "Unexpected character " ++ Quoted.single c
  | unterminatedString => "Unterminated string constant"
  | unterminatedComment => "Unterminated block comment"
  | unterminatedRegExp => "Unterminated regexp literal"
  | unterminatedTemplate => "Unterminated template"
  | badEscape wanted => "Bad character escape sequence, expected " ++ wanted
  | bracedEscapeNotClosed => "Invalid unicode escape"
  | unicodeEscapeExpected => "Expected unicode escape"
  | invalidInName => "Invalid character in identifier"
  | legacyOctal => "Legacy octal escape is not permitted in strict mode"
  | legacyDecimal => "Legacy decimal escape is not permitted in strict mode"
  | nameAfterNumber => "Identifier cannot follow number"
  | numberExpected => "Expected number with radix"
  | constantWithoutValue => "'const' declarations must be initialized"
  | patternWithoutValue => "Destructuring bindings require initializers"
  | trailingComma => "Trailing comma is not allowed"
  | commaAfterRest => "Trailing comma isn't permitted after a rest element"
  | restNotLast => "Rest element must be final element"
  | targetInvalid => "Invalid assignment target"
  | notAssignable => "Cannot assign to this"
  | notPattern => "Not a pattern"
  | nameWithValueInObject => "assignment property is invalid syntax"
  | declarationNotAllowed => "Declaration is not allowed"
  | awaitOutsideAsync => "await isn't allowed in non-async function"
  | awaitAsName => "\x60await\x60 cannot be used as an identifier in an async context"
  | awaitWithStar =>
    "await* has been removed from the async functions proposal. Use " ++
    "Promise.all() instead."
  | forAwaitNotOf => "for await syntax is valid only for for-of statement"
  | reservedName name => "\x60" ++ name ++ "\x60 cannot be used as an identifier in strict mode"
  | reservedBinding =>
    "'eval' and 'arguments' cannot be used as a binding identifier in strict mode"
  | escapedWord name => "Unexpected escape sequence in reserved word: " ++ name
  | exportWithoutSource name => "\x60" ++ name ++ "\x60 cannot be used without \x60from\x60 clause"
  | importedString value =>
    "A string literal cannot be used as an imported binding.\n- Did you " ++
    "mean \x60import \x7b \"" ++ value ++ "\" as foo \x7d\x60?"
  | exportedString => "A string literal cannot be used as an exported binding without \x60from\x60."
  | importInScript => "'import', and 'export' cannot be used outside of module code"
  | withNotAllowed => "With statement are not allowed in strict mode"
  | deleteOfName => "'delete' cannot be called on an identifier in strict mode"
  | powerOfUnary => "** cannot be applied to unary/await expression."
  | mixedCoalescing =>
    "Nullish coalescing operator(??) requires parens when mixing with logical " ++
    "operators"
  | emptyParentheses => "Parenthesized expression cannot be empty"
  | spreadInParentheses => "Parenthesized expression cannot contain spread operator"
  | arrowNotAllowed => "An arrow function is not allowed here"
  | newlineBeforeArrow => "Unexpected line break between arrow head and arrow"
  | newlineAfterThrow => "LineBreak cannot follow 'throw'"
  | severalDefaults => "A switch block cannot have multiple defaults"
  | severalLoopVariables => "Only one variable is allowed in the left side of for-in/of"
  | loopVariableWithValue => "Unexpected initializer in for in/of loop"
  | breakOutside =>
    "A 'break' statement can only be used within an enclosing iteration or switch " ++
    "statement"
  | breakLabelUnknown => "A 'break' statement can only jump to a label of an enclosing statement"
  | continueOutside =>
    "A 'continue' statement can only be used within an enclosing iteration " ++
    "statement"
  | continueLabelUnknown => "Jump target cannot cross function boundary"
  | duplicateLabel name => "Label " ++ name ++ " is already declared"
  | labelledFunction => "Function cannot be labelled in strict mode"
  | setterParameters => "A 'set' accessor must have exactly one parameter"
  | chainAfterNew => "Constructor in/after an optional chaining is not allowed"
  | templateInChain => "Tagged template literal is not allowed in optional chain"
  | regExpFlags => "Unknown regular expression flags."
  | severalConstructors => "A class may only have one constructor"
  | closingTagExpected name => "Expected corresponding JSX closing tag for <" ++ name ++ ">"

/-- Something wrong at a position. -/
structure Fault where
  cause : Cause
  position : Nat
deriving DecidableEq, Inhabited, Repr

/-- A fault in words, with the point in the text. -/
def Fault.failure (text : String) (f : Fault) : Failure :=
  ⟨f.cause.message, Point.ofPosition? text f.position⟩

end HostProps
