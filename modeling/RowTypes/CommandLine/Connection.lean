/-!
Connection strings. In whatever is shown of one the password is left out: it stands between the first
colon and the last `@` of the part after `://` that ends at the first slash or question mark.
-/

namespace RowTypes.Connection

/-- What stands in place of a password. -/
def mask : String :=
  "***"

/-- The characters up to and with the first `://`, and those after it. -/
def splitScheme : List Char → Option (List Char × List Char)
  | ':' :: '/' :: '/' :: r => some ([':', '/', '/'], r)
  | c :: r => (splitScheme r).map fun (scheme, rest) => (c :: scheme, rest)
  | [] => none

/-- A character that ends the part with user and host. -/
def endsAuthority (c : Char) : Bool :=
  c == '/' || c == '?'

/-- The characters before the last one with a property, and the rest from it on. -/
def splitLast (p : Char → Bool) (s : List Char) : Option (List Char × List Char) :=
  match s.reverse.span (!p ·) with
  | (_, []) => none
  | (after, c :: before) => some (before.reverse, c :: after.reverse)

/-- The part with user and host, without the password. -/
def maskAuthority (authority : List Char) : List Char :=
  match splitLast (· == '@') authority with
  | none => authority
  | some (user, host) =>
    match user.span (· != ':') with
    | (_, []) => authority
    | (name, _ :: _) => name ++ ':' :: (mask.toList ++ host)

/-- A connection string without its password. -/
def redact (text : String) : String :=
  match splitScheme text.toList with
  | none => text
  | some (scheme, rest) =>
    match rest.span (!endsAuthority ·) with
    | (authority, path) => String.ofList (scheme ++ maskAuthority authority ++ path)

/-- The beginnings of the connection strings for PostgreSQL. -/
def postgresSchemes : List String :=
  ["postgres://", "postgresql://"]

def isPostgres (text : String) : Bool :=
  postgresSchemes.any fun scheme => scheme.toList.isPrefixOf text.toList

end RowTypes.Connection
