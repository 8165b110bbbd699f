import KeySweeper.Failure
import KeySweeper.Text.Numeral
import KeySweeper.Text.Percent

/-!
# Addresses of servers

An address names a server by a scheme, an optional user with an optional password, a host, an
optional port and the number of a database. Controls and blanks around an address do not belong to
it, and tabs and line breaks within it are passed over. The user, the host and the port end at the
first slash, question mark or number sign.

Only plain addresses are accepted: no encryption, a user and a password that are texts once their
percent escapes are resolved, a host of letters, digits, dots and dashes, a port of sixteen bits, at
most one number behind the host, and neither a query nor a fragment. An address that is not accepted
cannot be connected to.
-/

namespace KeySweeper

/-- The address of a server. -/
structure ServerAddress where
  /-- The user, empty if none is named. -/
  user : String
  /-- The password, if there is one. -/
  password : Option String
  /-- The host. -/
  host : String
  /-- The port. -/
  port : Nat
  /-- The number of the database. -/
  database : Int
deriving DecidableEq, Repr

namespace ServerAddress

/-- The port of a server unless the address names one. -/
def defaultPort : Nat := 6379

/-- Whether a character around an address does not belong to it. -/
def isMargin (c : Char) : Bool := c ≤ ' '

/-- Whether a character within an address is passed over. -/
def isPassedOver (c : Char) : Bool := c == '\t' || c == '\n' || c == '\r'

/-- The characters of an address that count. -/
def significant (url : String) : List Char :=
  let inner := url.toList.dropWhile isMargin
  (inner.reverse.dropWhile isMargin).reverse.filter fun c => !isPassedOver c

/-- Whether the user, the host and the port end before a character. -/
def endsAuthority (c : Char) : Bool := c == '/' || c == '?' || c == '#'

/-- Whether a character may occur in the name of a host. -/
def isHostChar (c : Char) : Bool := c.isAlphanum || c == '.' || c == '-'

/-- Drops a fixed beginning of a text. -/
def dropStart? : List Char → List Char → Option (List Char)
  | [], text => some text
  | _ :: _, [] => none
  | a :: start, b :: text => if a = b then dropStart? start text else none

/-- The part before the first occurrence of a character, and the part behind it if there is one. -/
def splitAt (c : Char) (text : List Char) : List Char × Option (List Char) :=
  (text.takeWhile (· != c),
    if text.contains c then some ((text.dropWhile (· != c)).drop 1) else none)

/-- Reads the port, if one is named. -/
def portOf? : Option (List Char) → Option Nat
  | none => some defaultPort
  | some [] => some defaultPort
  | some digits => (Text.Numeral.digits? digits).filter (· < Text.Numeral.limit16)

/-- Reads the number of the database from what follows the host and the port. -/
def databaseOf? : List Char → Option Int
  | [] => some 0
  | ['/'] => some 0
  | '/' :: digits => Text.Numeral.signed? Text.Numeral.signedLimit64 (String.ofList digits)
  | _ => none

/-- Reads the password, if one is given; the inner option tells a text from none. -/
def passwordOf? : Option (List Char) → Option (Option String)
  | none => some none
  | some chars => (Text.Percent.decode? chars).map some

/-- Reads an address. -/
def parse? (url : String) : Option ServerAddress := do
  let rest ← dropStart? "redis://".toList (significant url)
  let (authority, path) := rest.span fun c => !endsAuthority c
  let (credentials, hostAndPort) := match splitAt '@' authority with
    | (before, some behind) => (before, behind)
    | (whole, none) => ([], whole)
  let (userText, passwordText) := splitAt ':' credentials
  let user ← Text.Percent.decode? userText
  let password ← passwordOf? passwordText
  let (host, portText) := splitAt ':' hostAndPort
  let port ← portOf? portText
  let database ← databaseOf? path
  if host.isEmpty || !host.all isHostChar then none
  else some { user, password, host := String.ofList host, port, database }

/-- The error for an address that is not accepted. -/
def refusal : ServerError :=
  .describe .invalidClientConfig "Invalid server address" "not accepted"

end ServerAddress

end KeySweeper
