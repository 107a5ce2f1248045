/-
Module: Integr8s.Services.Security
Purpose: The CSRF tokens of the security service: how one is generated for a
  session, and the check of the token that a request brings.
Trusted boundary: human-reviewed spec
Main exports: Request, SecurityService.generateCsrfToken,
  SecurityService.compareDigest, SecurityService.validateCsrfFromRequest
-/
import Integr8s.Domain.Exceptions
import Integr8s.Lib.PythonText

namespace Integr8s

/-- What the CSRF check reads of a request, as the framework decodes it. -/
structure Request where
  method : String
  path : String
  headers : String → Option String := fun _ => none
  cookies : String → Option String := fun _ => none

namespace SecurityService

/-- `hmac.compare_digest` of two texts, which takes ASCII only. -/
def compareDigest (first second : String) : Except PyException Bool :=
  if first.toList.all Char.isAscii && second.toList.all Char.isAscii then
    .ok (first == second)
  else .error .typeError

/-- Validate a CSRF token using the double-submit cookie pattern. -/
def validateCsrfToken (headerToken cookieToken : String) :
    Except PyException Bool :=
  if headerToken = "" ∨ cookieToken = "" then .ok false
  else compareDigest headerToken cookieToken

/-- The endpoints that handle their own security. -/
def csrfExemptPaths : List String :=
  ["/api/v1/auth/login", "/api/v1/auth/register"]

section Signing

-- the HMAC digest of a text under the secret key, in hex digits
variable (hmac : String → String)

def signCsrf (nonce sessionId : String) : String :=
  hmac (nonce ++ ":" ++ sessionId)

/-- The token for a session, with the nonce that was drawn for it. -/
def generateCsrfToken (nonce sessionId : String) : String :=
  nonce ++ "." ++ signCsrf hmac nonce sessionId

/-- A token is parted at its first dot. -/
def verifyCsrfSignature (token sessionId : String) : Except PyException Bool :=
  match PyText.partition '.' token.toList with
  | (_, false, _) => .ok false
  | (nonce, true, signature) =>
      compareDigest (String.ofList signature)
        (signCsrf hmac (String.ofList nonce) sessionId)

/-- Validate the CSRF token of a request: the token, or `"skip"` when there is
nothing to validate. -/
def validateCsrfFromRequest (request : Request) : Except PyException String :=
  if request.method ∈ ["GET", "HEAD", "OPTIONS"] then .ok "skip"
  else if request.path ∈ csrfExemptPaths then .ok "skip"
  else if ¬ "/api/".toList <+: request.path.toList then .ok "skip"
  else
    let accessToken := (request.cookies "access_token").getD ""
    if accessToken = "" then .ok "skip"
    else
      let headerToken := (request.headers "X-CSRF-Token").getD ""
      let cookieToken := (request.cookies "csrf_token").getD ""
      if headerToken = "" then
        .error (.csrfValidationError
          "CSRF token missing from X-CSRF-Token header")
      else do
        let same ← validateCsrfToken headerToken cookieToken
        if !same then
          throw (.csrfValidationError
            "CSRF token invalid or does not match cookie")
        else
          let valid ← verifyCsrfSignature hmac headerToken accessToken
          if !valid then
            throw (.csrfValidationError "CSRF token signature invalid")
          else pure headerToken

end Signing

end SecurityService

end Integr8s
