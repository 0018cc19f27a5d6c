import RowAccess.Identity.Label
import RowAccess.Text.Digest
import RowAccess.Time.Instant

/-!
Contract: stored bearer credentials.

A credential is expired from its expiry on. Tokens are told apart in records by
a fingerprint, never by their text.
-/

namespace RowAccess

structure Credential where
  token : TokenValue
  owner : PrincipalId
  issuedAt : Instant
  expiresAt : Instant
  lastUsedAt : Option Instant
deriving DecidableEq, Repr

namespace Credential

def isExpired (credential : Credential) (now : Instant) : Bool :=
  credential.expiresAt.nanos ≤ now.nanos

end Credential

/-- The digest that stands for a token in audit events. -/
def TokenValue.fingerprint (token : TokenValue) : String := Text.Digest.ofText token.text

end RowAccess
