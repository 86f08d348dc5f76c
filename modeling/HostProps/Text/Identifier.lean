import HostProps.Text.IdentifierTable

/-!
# Names

`isIdentifierName` decides which names can stand in a program as they are: the first character
starts an identifier and every later one continues it.  A dollar sign is accepted in the first
place only.

`isComponentName` and `isScriptSpecifier` decide which imports are components: the local name
starts with a capital letter or an underscore, and the specifier names a script.
-/

namespace HostProps

/-- A character that a name may start with. -/
def startsName (c : Char) : Bool :=
  c = '$' || c = '_' || isIdStart c

/-- A character that a name may go on with: also the zero-width joiner and non-joiner. -/
def continuesName (c : Char) : Bool :=
  c = '\u200c' || c = '\u200d' || isIdContinue c

/-- Is a string the name of an identifier? -/
def isIdentifierName (s : String) : Bool :=
  match s.toList with
  | [] => false
  | c :: rest => startsName c && rest.all continuesName

/-- Does a name look like that of a component: `A`, `_a`? -/
def isComponentName (s : String) : Bool :=
  match s.toList with
  | c :: _ => ('A' ≤ c && c ≤ 'Z') || c = '_'
  | [] => false

/-- The endings of specifiers that name scripts. -/
def scriptExtensions : List String := [".js", ".mjs", ".cjs", ".jsx"]

/-- Does a specifier name a script? -/
def isScriptSpecifier (s : String) : Bool :=
  scriptExtensions.any fun e => e.toList.isSuffixOf s.toList

end HostProps
