/-!
# Words with a meaning of their own

A module is strict, and may wait at its top level, so more words are reserved in it than the
keywords: they stand for no variable.
-/

namespace HostProps

/-- The words that never name a variable. -/
def keywords : List String :=
  ["break", "case", "catch", "class", "const", "continue", "debugger", "default", "delete", "do",
    "else", "export", "extends", "false", "finally", "for", "function", "if", "import", "in",
    "instanceof", "new", "null", "return", "super", "switch", "this", "throw", "true", "try",
    "typeof", "var", "void", "while", "with"]

def isKeyword (word : String) : Bool := keywords.contains word

/-- The words that cannot name a variable in a module, though they could elsewhere. -/
def strictWords : List String :=
  ["enum", "implements", "interface", "let", "package", "private", "protected", "public", "static",
    "yield"]

/-- The words that are reserved in modules: they stand for no variable. -/
def isReserved (word : String) : Bool :=
  isKeyword word || word == "await" || (strictWords.contains word && word != "static")

end HostProps
