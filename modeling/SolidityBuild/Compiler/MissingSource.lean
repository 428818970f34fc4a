import SolidityBuild.Compiler.Output
import SolidityBuild.Json.Display
import SolidityBuild.Text.Search

/-! # Missing sources

The compiler reports a source that it cannot load as an error with a code of its
own, and names the source in the message. From such errors the names are read,
and into them the true reason is written when a look-up has failed.
-/

namespace SolidityBuild.MissingSource

/-- The code of an error that reports a missing source. -/
def errorCode : Text := "6275"

/-- The compiler's reason, since it does not look sources up itself. -/
def genericReason : Text := "File import callback not supported."

def opening : List Rune := "Source \"".runes

def closing : List Rune := "\" not found".runes

/-- The sentence that reports a source as missing, with a reason. -/
def sentence (name reason : Text) : List Rune :=
  opening ++ name.toList ++ closing ++ ": ".runes ++ reason.toList

/-- The name in a message that reports a missing source: it has at least one
    character and no line feed, and the first closing text ends it. -/
def nameIn? (message : List Rune) : Option Text := do
  let rest ← opening.isPrefixOf? message
  match rest with
  | [] => none
  | first :: rest =>
    let (others, _) ← Text.cutAt? closing rest
    let name := first :: others
    if name.contains '\n' then none else some (Text.ofList name)

/-- Whether an entry of the error list reports a missing source. -/
def isReport (entry : Members) : Bool :=
  match entry.get? "errorCode" with
  | some (.str code) => code == errorCode
  | _ => false

/-- The entries of the error list that are objects. -/
def entries (output : Members) : List Members :=
  match output.get? "errors" with
  | some (.arr items) => items.filterMap Json.asObject?
  | _ => []

/-- The name of the missing source that an entry reports, if it reports one. -/
def nameOf? (entry : Members) : Option Text :=
  if isReport entry then
    nameIn? ((entry.get? "message").getD (.str "")).display.toList
  else none

/-- Each name once, in the order of first occurrence. -/
def distinct (names : List Text) : List Text :=
  names.foldl (fun found name => if found.contains name then found else found ++ [name]) []

/-- The names of all missing sources that an answer reports. -/
def namesIn (output : Members) : List Text :=
  distinct ((entries output).filterMap nameOf?)

/-- The names of all missing sources that the text of an answer reports; a text
    that is not a document, or no object, reports none. -/
def names (output : Text) : Except Failure (List Text) :=
  match Json.read output with
  | .ok (.obj members) => .ok (namesIn members)
  | .ok _ => .ok []
  | .error (.malformed _) => .ok []
  | .error failure => .error failure

/-- Write a reason into one text member, wherever the generic reason stands for
    this name. The flag tells whether it stood there. -/
def explainMember (name reason : Text) (key : Text) (entry : Members) : Members × Bool :=
  match entry.get? key with
  | some (.str text) =>
    let generic := sentence name genericReason
    if Text.occursIn generic text.toList then
      let explained := Text.replaceAll generic (sentence name reason) text.toList
      (entry.put key (.str (Text.ofList explained)), true)
    else (entry, false)
  | _ => (entry, false)

/-- Write a reason into both texts of an entry. -/
def explainOne (entry : Members) (name reason : Text) : Members × Bool :=
  let (entry, inMessage) := explainMember name reason "message" entry
  let (entry, inFormatted) := explainMember name reason "formattedMessage" entry
  (entry, inMessage || inFormatted)

/-- Write all reasons into an entry, one after the other. -/
def explainEntry (failures : List (Text × Text)) (entry : Members) : Members × Bool :=
  failures.foldl (fun (entry, changed) (name, reason) =>
    let (entry, here) := explainOne entry name reason
    (entry, changed || here)) (entry, false)

/-- Write all reasons into one item of the error list. -/
def explainItem (failures : List (Text × Text)) (item : Json) : Json × Bool :=
  match item with
  | .obj entry =>
    if isReport entry then
      let (entry, changed) := explainEntry failures entry
      (.obj entry, changed)
    else (item, false)
  | item => (item, false)

/-- Write the reasons of failed look-ups into an answer, or `none` if none of
    them has a place there. -/
def explain? (failures : List (Text × Text)) (output : Members) : Option Members :=
  match output.get? "errors" with
  | some (.arr items) =>
    let explained := items.map (explainItem failures)
    if explained.any Prod.snd then some (output.put "errors" (.arr (explained.map Prod.fst)))
    else none
  | _ => none

/-- Write the reasons of failed look-ups into the text of an answer. A text in
    which none of them has a place is handed back as it is. -/
def annotate (output : Text) (failures : List (Text × Text)) : Except Failure Text :=
  match Json.read output with
  | .ok (.obj members) =>
    match explain? failures members with
    | some members => .ok (Json.obj members).compact
    | none => .ok output
  | .ok _ => .ok output
  | .error (.malformed _) => .ok output
  | .error failure => .error failure

end SolidityBuild.MissingSource
