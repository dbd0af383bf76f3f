import JavaAudit.Text.LetterCase
import JavaAudit.Text.Search

/-! What names and literal values suggest.

Each test looks at text alone: an identifier, a literal value or rendered code. -/

set_option autoImplicit false

namespace JavaAudit.Vocabulary

open Text

def mentions (words : List String) (text : String) : Bool :=
  containsAny words (lower text.toList)

def isCredentialName (name : String) : Bool :=
  mentions ["password", "secret", "key", "token", "user", "credential", "auth", "api_key",
    "access_key"] name

def isSensitiveLocalName (name : String) : Bool :=
  mentions ["password", "secret", "key", "token"] name

def isSecurityContext (text : String) : Bool :=
  mentions ["password", "key", "token", "crypto", "security", "auth"] text

def isSecurityCriticalMethodName (name : String) : Bool :=
  mentions ["sql", "query", "execute", "command"] name

def isUserInputName (name : String) : Bool :=
  mentions ["input", "param", "request", "user"] name

def isIndexLikeName (name : String) : Bool :=
  mentions ["index", "pos", "offset"] name

def isSqlVariableName (name : String) : Bool :=
  mentions ["query", "sql", "statement"] name

def isTestMethodName (name : String) : Bool :=
  mentions ["test"] name || lower name.toList == "main".toList

def isLookupCallName (name : String) : Bool :=
  startsWithAny ["get", "find", "search", "lookup"] (lower name.toList)

def isStringLikeName (name : String) : Bool :=
  lower name.toList == "result".toList ||
    mentions ["string", "message", "text", "report", "output"] name

/-- Constants in upper case, and capitalised type names. -/
def isConstantOrTypeName (name : String) : Bool :=
  match name.toList with
  | [] => false
  | first :: rest => upper (first :: rest) == first :: rest || isUpper first

def isPrimitiveType (type : String) : Bool :=
  ["int", "long", "double", "float", "boolean", "char", "byte", "short"].contains type

def isPlaceholderValue (value : String) : Bool :=
  let lowered := lower value.toList
  ["password", "secret", "user", "test", "example", "demo", "default", "changeme", ""].any
      (·.toList == lowered) ||
    startsWithAny ["todo", "placeholder", "your_", "enter_"] lowered

def isFromSecureSource (code : String) : Bool :=
  containsAny ["System.getProperty", "System.getenv", "SecureRandom", "KeyGenerator",
    "getPassword()"] code.toList

def isConfigContext (code : String) : Bool :=
  containsAny ["System.getProperty", "System.getenv", "config", "properties"] code.toList

def isPasswordSymbol (c : Char) : Bool :=
  "!@#$%^&*()_+-=[]\x7b\x7d|;:,.<>?".toList.contains c

/-- At least six characters of at least two classes. -/
def looksLikePassword (value : List Char) : Bool :=
  6 ≤ value.length &&
    2 ≤ [isUpper, isLower, isDigit, isPasswordSymbol].countP fun cls => value.any cls

/-- Of medium length, and more than four fifths letters, numerals, hyphens and underscores. -/
def looksLikeApiKey (value : List Char) : Bool :=
  16 ≤ value.length && value.length ≤ 128 &&
    4 * value.length < 5 * value.countP fun c => isAlphanumeric c || c == '-' || c == '_'

def looksLikeToken (value : List Char) : Bool :=
  (value.contains '.' && 20 < value.length) || (32 < value.length && value.all isAlphanumeric)

def looksLikeCredential (value : List Char) : Bool :=
  3 ≤ value.length &&
    (looksLikePassword value || looksLikeApiKey value || looksLikeToken value ||
      ["admin", "administrator", "root", "sa"].any (·.toList == lower value) ||
      (occursIn "admin".toList (lower value) && value.length < 20))

end JavaAudit.Vocabulary
