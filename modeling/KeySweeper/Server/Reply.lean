import KeySweeper.Environment
import KeySweeper.Failure
import KeySweeper.Text.Literal

/-!
# Replies of a key-value server

What a server can answer to a command, and how the answer is read in the type that the command calls
for. Numbers may come as such or as text. An error anywhere in a reply is an error of the command,
and its first word says of which kind it is. A reply that does not have the form called for is an
error too, whose text shows the reply.
-/

namespace KeySweeper

/-- A reply of a server. -/
inductive ServerReply where
  /-- A number. -/
  | number (value : Int)
  /-- A text of any length. -/
  | text (value : String)
  /-- Bytes that may be no text. -/
  | bytes (raw : List UInt8)
  /-- A short status. -/
  | status (value : String)
  /-- An error line. -/
  | error (line : String)
  /-- Nothing. -/
  | nothing
  /-- Several replies in order. -/
  | items (replies : List ServerReply)
deriving Repr, Inhabited

namespace ServerErrorKind

/-- The kind of error that the first word of an error line stands for. -/
def ofWord (word : String) : ServerErrorKind :=
  if word = "ERR" then .response
  else if word = "EXECABORT" then .execAbort
  else if word = "LOADING" then .busyLoading
  else if word = "NOSCRIPT" then .noScript
  else if word = "MOVED" then .moved
  else if word = "ASK" then .ask
  else if word = "TRYAGAIN" then .tryAgain
  else if word = "CLUSTERDOWN" then .clusterDown
  else if word = "CROSSSLOT" then .crossSlot
  else if word = "MASTERDOWN" then .masterDown
  else if word = "READONLY" then .readOnly
  else if word = "NOTBUSY" then .notBusy
  else if word = "NOSUB" then .noSub
  else .extension

end ServerErrorKind

namespace ServerError

/-- The error behind an error line: the first word gives the kind, what follows the blank behind it
is the detail. -/
def ofLine (line : String) : ServerError :=
  let word := String.ofList (line.toList.takeWhile (· != ' '))
  let detail := (line.toList.dropWhile (· != ' ')).tail?.map String.ofList
  match ServerErrorKind.ofWord word, detail with
  | .extension, some detail => ⟨.extension, word ++ ": " ++ detail⟩
  | .extension, none => ⟨.extension, word ++ ": Unknown extension error encountered"⟩
  | kind, some detail => .describe kind "An error was signalled by the server" detail
  | kind, none => ⟨kind, "An error was signalled by the server- " ++ kind.name⟩

/-- The error for bytes that should be a text and are none. -/
def notText (description : String) : ServerError :=
  ⟨.type, description ++ "- " ++ ServerErrorKind.type.name⟩

end ServerError

namespace ServerReply

mutual

/-- The first error in a reply. -/
def error? : ServerReply → Option ServerError
  | .error line => some (.ofLine line)
  | .items replies => errorIn? replies
  | _ => none

/-- The first error in several replies. -/
def errorIn? : List ServerReply → Option ServerError
  | [] => none
  | reply :: rest =>
    match error? reply with
    | some e => some e
    | none => errorIn? rest

end

/-- The text in a reply that holds one, numbers excluded. -/
def rawText? : ServerReply → Option String
  | .text value => some value
  | .bytes raw => Environment.textOfBytes raw
  | .status value => some value
  | _ => none

mutual

/-- A reply as the texts of errors show it. -/
def describe : ServerReply → String
  | .number value => "int(" ++ toString value ++ ")"
  | .text value => "bulk-string('" ++ Text.Literal.quote value ++ "')"
  | .bytes raw =>
    match Environment.textOfBytes raw with
    | some value => "bulk-string('" ++ Text.Literal.quote value ++ "')"
    | none => "binary-data([" ++ ", ".intercalate (raw.map fun byte => toString byte.toNat) ++ "])"
  | .status value =>
    if value = "OK" then "ok" else "simple-string(" ++ Text.Literal.quote value ++ ")"
  | .error line => "Server error: " ++ line
  | .nothing => "nil"
  | .items replies => "array([" ++ ", ".intercalate (describeAll replies) ++ "])"

/-- Several replies as the texts of errors show them. -/
def describeAll : List ServerReply → List String
  | [] => []
  | reply :: rest => describe reply :: describeAll rest

end

/-- The error for a reply that does not have the expected form. -/
def unexpected (reply : ServerReply) (complaint : String) : ServerError :=
  .describe .type "Response was of incompatible type"
    (Text.Literal.quote complaint ++ " (response was " ++ reply.describe ++ ")")

/-- The error for a reply that holds no number of the wanted range. The status of success is not
even tried as a number. -/
def notNumber (reply : ServerReply) : ServerError :=
  match reply with
  | .bytes raw =>
    if (Environment.textOfBytes raw).isSome then reply.unexpected "Could not convert from string."
    else .notText "Invalid UTF-8"
  | .text _ => reply.unexpected "Could not convert from string."
  | .status value =>
    if value = "OK" then reply.unexpected "Response type not convertible to numeric."
    else reply.unexpected "Could not convert from string."
  | _ => reply.unexpected "Response type not convertible to numeric."

/-- Reads a signed number of sixty-four bits. -/
def signed : ServerReply → Except ServerError Int
  | .number value => .ok value
  | reply =>
    match (rawText? reply).bind (Text.Numeral.signed? Text.Numeral.signedLimit64) with
    | some value => .ok value
    | none => .error reply.notNumber

/-- Reads a natural number of sixty-four bits; a negative number stands for the natural number with
the same bits. -/
def unsigned : ServerReply → Except ServerError Nat
  | .number value => .ok (value % (Text.Numeral.limit64 : Int)).toNat
  | reply =>
    match (rawText? reply).bind (Text.Numeral.unsigned? Text.Numeral.limit64) with
    | some value => .ok value
    | none => .error reply.notNumber

/-- Reads a text; a number is read as its digits. -/
def string : ServerReply → Except ServerError String
  | .number value => .ok (toString value)
  | reply =>
    match rawText? reply, reply with
    | some value, _ => .ok value
    | none, .bytes _ => .error (.notText "Cannot convert from UTF-8")
    | none, _ => .error (reply.unexpected "Response type not string compatible.")

/-- Reads a text that may be missing. -/
def string? : ServerReply → Except ServerError (Option String)
  | .nothing => .ok none
  | reply => (string reply).map some

/-- Reads a list of texts; nothing is read as no texts, and a text of any length by itself as a list
of one text. A status is no list. -/
def strings : ServerReply → Except ServerError (List String)
  | .nothing => .ok []
  | .items replies => replies.mapM string
  | .text value => .ok [value]
  | .bytes raw => (string (.bytes raw)).map ([·])
  | reply => .error (reply.unexpected "Response type not vector compatible.")

/-- Reads a page of a scan: the cursor of the next page and the keys of this one. -/
def page : ServerReply → Except ServerError (Nat × List String)
  | .items [cursor, keys] => do
    let cursor ← unsigned cursor
    let keys ← strings keys
    return (cursor, keys)
  | .items replies =>
    .error ((ServerReply.items replies).unexpected "Array response of wrong dimension")
  | reply => .error (reply.unexpected "Not a Array response")

mutual

/-- The number of parts of a reply. -/
def weight : ServerReply → Nat
  | .items replies => 1 + weightOf replies
  | _ => 1

/-- The number of parts of several replies. -/
def weightOf : List ServerReply → Nat
  | [] => 0
  | reply :: rest => weight reply + weightOf rest

end

end ServerReply

end KeySweeper
