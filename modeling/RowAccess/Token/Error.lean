import RowAccess.Identity.Label
import RowAccess.Json.Value
import RowAccess.Store.Error
import RowAccess.Time.Expiry

/-!
Contract: failures to authenticate a token.

Owns:
- the failures, their codes, statuses and texts.
- the body that a client is sent; it never shows what a store reported.
-/

namespace RowAccess

inductive TokenError where
  | notFound (token : TokenValue)
  | expired (token : TokenValue) (expiredAt : Instant)
  | ownerMissing (owner : PrincipalId)
  | store (error : StoreError)
deriving DecidableEq, Repr

namespace TokenError

def code : TokenError → String
  | .notFound _ => "TokenNotFound"
  | .expired _ _ => "TokenExpired"
  | .ownerMissing _ | .store _ => "InternalError"

def httpStatus : TokenError → Nat
  | .notFound _ => 404
  | .expired _ _ => 400
  | .ownerMissing _ | .store _ => 500

def message : TokenError → String
  | .notFound _ => "token not found"
  | .expired _ _ => "token expired"
  | .ownerMissing owner => "token owner " ++ owner.text ++ " not found"
  | .store error => error.message

def httpBody (error : TokenError) : Json :=
  Json.ofFields (("code", .string error.code) ::
    match error with
    | .notFound token =>
        [("message", .string "Token not found."), ("token", .string token.text)]
    | .expired token expiredAt =>
        [("message", .string "Token expired."), ("token", .string token.text),
         ("expired_at", .string expiredAt.expiryText)]
    | .ownerMissing _ | .store _ => [("message", .string "Authentication failed.")])

end TokenError

end RowAccess
