/-
Module: Integr8s.Services.Logging
Purpose: The redaction of log texts: the patterns for sensitive data, one after
  the other, and the masking of e-mail addresses.
Trusted boundary: human-reviewed spec
Main exports: Logging.SensitivePattern, Logging.sensitivePatterns,
  Logging.maskEmail, Logging.redactText, Logging.redact
-/
import Integr8s.Lib.PythonText
import Integr8s.Lib.RegexReplace

namespace Integr8s

namespace Logging

open Regex

/-- What `IGNORECASE` compares of a character: some letters beyond ASCII have
a case in it. -/
def foldCase (c : Char) : Char :=
  if c = '\u212A' then 'k'
  else if c = '\u017F' then 's'
  else if c = '\u0130' ∨ c = '\u0131' then 'i'
  else c.toLower

/-- A character of a pattern. -/
def letter (c : Char) : Regex Char :=
  one fun other => foldCase other == foldCase c

def word (text : String) : Regex Char :=
  text.toList.foldr (fun c rest => seq (letter c) rest) empty

/-- `["']`. -/
def isQuote (c : Char) : Bool :=
  c == '"' || c == '\''

/-- `[A-Za-z0-9\-_]`. -/
def isBase64 (c : Char) : Bool :=
  (foldCase c).isAlphanum || c == '-' || c == '_'

/-- `[a-z0-9._%+-]`. -/
def isLocal (c : Char) : Bool :=
  isBase64 c || c == '.' || c == '%' || c == '+'

/-- `[a-z0-9.-]`. -/
def isDomain (c : Char) : Bool :=
  (foldCase c).isAlphanum || c == '.' || c == '-'

/-- `\\?["']`. -/
def escapedQuote : Regex Char :=
  seq (opt (letter '\\')) (one isQuote)

/-- `[^"'\\]|\\(?!["'])`. -/
def valueChar : Regex Char :=
  alt (one fun c => !isQuote c && c != '\\')
    (seq (letter '\\') (assert fun _ after => !after.head?.any isQuote))

/-- A pattern and its replacement: a group that it keeps, a marker, and
another group. -/
structure SensitivePattern where
  pattern : Regex Char
  before : Option Nat
  marker : String
  after : Option Nat

/-- `(?:\\?["'])?(?:api[_-]?)?(?:key|token|...)(?:\\?["'])?\s*`: the name of a
key, token, secret or password. -/
def keyName : Regex Char :=
  seq (opt escapedQuote)
    (seq (opt (seq (word "api") (opt (one fun c => c == '_' || c == '-'))))
      (seq (oneOf [word "key", word "token", word "secret", word "password",
          word "passwd", word "pwd"])
        (seq (opt escapedQuote) (star (one PyText.isSpace)))))

/-- `[:=]\s*(?:\\?["'])?`. -/
def assignment : Regex Char :=
  seq (one fun c => c == ':' || c == '=')
    (seq (star (one PyText.isSpace)) (opt escapedQuote))

def keyPattern : SensitivePattern where
  pattern := seq (group 1 (seq keyName assignment))
    (seq (group 2 (plus valueChar)) (group 3 (opt escapedQuote)))
  before := some 1
  marker := "***API_KEY_OR_TOKEN_REDACTED***"
  after := some 3

def bearerPattern : SensitivePattern where
  pattern := seq (group 1 (seq (word "Bearer") (plus (one PyText.isSpace))))
    (group 2 (plus (one isBase64)))
  before := some 1
  marker := "***BEARER_TOKEN_REDACTED***"
  after := none

def jwtPattern : SensitivePattern where
  pattern := group 1 (seq (word "eyJ") (seq (plus (one isBase64))
    (seq (letter '.') (seq (word "eyJ") (seq (plus (one isBase64))
      (seq (letter '.') (plus (one isBase64))))))))
  before := none
  marker := "***JWT_REDACTED***"
  after := none

def mongodbPattern : SensitivePattern where
  pattern :=
    seq (group 1 (seq (word "mongodb") (seq (opt (word "+srv"))
      (seq (word "://") (seq (plus (one (· != ':'))) (letter ':'))))))
      (seq (group 2 (plus (one (· != '@')))) (group 3 (letter '@')))
  before := some 1
  marker := "***MONGODB_REDACTED***"
  after := some 3

def urlPattern : SensitivePattern where
  pattern :=
    seq (group 1 (seq (word "http") (seq (opt (letter 's'))
      (seq (word "://") (seq (plus (one (· != ':'))) (letter ':'))))))
      (seq (group 2 (plus (one (· != '@')))) (group 3 (letter '@')))
  before := some 1
  marker := "***URL_CREDS_REDACTED***"
  after := some 3

/-- `SENSITIVE_PATTERNS`. -/
def sensitivePatterns : List SensitivePattern :=
  [keyPattern, bearerPattern, jwtPattern, mongodbPattern, urlPattern]

/-- `_EMAIL_PATTERN`. -/
def emailPattern : Regex Char :=
  seq (assert fun before _ => !before.head?.any isLocal)
    (seq (group 1 (atomic (plus (one isLocal)))) (seq (letter '@')
      (group 2 (seq (plus (one isDomain)) (seq (letter '.')
        (seq (one fun c => (foldCase c).isAlpha)
          (plus (one fun c => (foldCase c).isAlpha))))))))

section Text

variable {Token : Type} (read : Token → Char) (made : Char → Token)

/-- What a match is replaced by. -/
def SensitivePattern.replacement (rule : SensitivePattern)
    (found : Match Token) : List Token :=
  (rule.before.map found.captured).getD [] ++ rule.marker.toList.map made ++
    (rule.after.map found.captured).getD []

/-- `re.sub` with a pattern and its replacement. -/
def SensitivePattern.sub (rule : SensitivePattern) (text : List Token) :
    List Token :=
  Regex.sub (comap read rule.pattern) (rule.replacement made) text

/-- `_mask_email`. -/
def maskEmail (found : Match Token) : List Token :=
  (found.captured 1).take 3 ++ "***@".toList.map made ++ found.captured 2

/-- The redaction of a text of any tokens that are read as characters and made
of them. -/
def redactText (text : List Token) : List Token :=
  Regex.sub (comap read emailPattern) (maskEmail made)
    (sensitivePatterns.foldl (fun text rule => rule.sub read made text) text)

end Text

/-- `_redact`. -/
def redact (value : String) : String :=
  String.ofList (redactText id id value.toList)

end Logging

end Integr8s
