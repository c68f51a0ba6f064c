import Mathlib.Data.List.Basic

/-!
# Digest responses

What a client proves with an HTTP Digest response: a hash over its credentials,
the server's nonce, and the method and URI of its request. The hash is a
parameter.
-/

namespace Tr069d

namespace Digest

structure Credentials where
  username : List Char
  realm : List Char
  password : List Char

/-- What the response also covers when the client names a quality of
protection. -/
structure Protection where
  nc : List Char
  cnonce : List Char
  qop : List Char

/-- Texts joined by colons. -/
def colons : List (List Char) → List Char :=
  List.intercalate [':']

variable (hash : List Char → List Char)

def a1 (client : Credentials) : List Char :=
  hash (colons [client.username, client.realm, client.password])

def a2 (method uri : List Char) : List Char :=
  hash (colons [method, uri])

/-- The response a client that knows the credentials gives. -/
def response (client : Credentials) (nonce : List Char) (protection : Option Protection)
    (method uri : List Char) : List Char :=
  match protection with
  | none => hash (colons [a1 hash client, nonce, a2 hash method uri])
  | some p => hash (colons [a1 hash client, nonce, p.nc, p.cnonce, p.qop, a2 hash method uri])

end Digest

end Tr069d
