/-!
# Media types

A media type is a type and a subtype between which a slash stands, and parameters behind
semicolons.  The subtype may end in a suffix behind a plus sign.

## Main definitions

* `MediaType`, `MediaType.parse?` : a media type in lower case, and its reader.
* `parametersFrom?` : the parameters that a text lists.
* `MediaType.isJson`, `isJsonType` : whether a type is the one of JSON or is built on it.
* `MediaType.parameter?`, `charset?` : a parameter, and the one that names a character set.
-/

namespace CacheCluster.Http

/-- Whether a character may stand in a name. -/
def isTokenChar (c : Char) : Bool := c.isAlphanum || "!#$%&'*+-.^_\x60|~".toList.contains c

/-- Whether a character may stand in a quoted value. -/
def isQuotedChar (c : Char) : Bool := 31 < c.toNat && c.toNat != 127

/-- A parameter: a name and a value. -/
abbrev Parameter := List Char × List Char

/-- A media type. -/
structure MediaType where
  type : List Char
  subtype : List Char
  suffix? : Option (List Char)
  parameters : List Parameter

/-- Where the reading of a parameter stands, with the name and the value so far in reverse. -/
inductive ParameterState
  | start
  | name (name : List Char)
  | equals (name : List Char)
  | value (name value : List Char)
  | quote (name : List Char)
  | quoted (name value : List Char)
  | unquoted (name value : List Char)

/-- The parameters that a text lists, read on from a state.  Blanks may stand before a name and
behind a quoted value only, and a quoted value is not empty. -/
def parametersFrom? : ParameterState → List Char → Option (List Parameter)
  | .start, [] => some []
  | .equals n, [] => some [(n.reverse, [])]
  | .value n v, [] | .unquoted n v, [] => some [(n.reverse, v.reverse)]
  | _, [] => none
  | .start, c :: rest =>
    if c = ' ' then parametersFrom? .start rest
    else if isTokenChar c then parametersFrom? (.name [c]) rest
    else none
  | .name n, c :: rest =>
    if c = '=' then parametersFrom? (.equals n) rest
    else if isTokenChar c then parametersFrom? (.name (c :: n)) rest
    else none
  | .equals n, c :: rest =>
    if c = '"' then parametersFrom? (.quote n) rest
    else if isTokenChar c then parametersFrom? (.value n [c]) rest
    else none
  | .value n v, c :: rest =>
    if c = ';' then ((n.reverse, v.reverse) :: ·) <$> parametersFrom? .start rest
    else if isTokenChar c then parametersFrom? (.value n (c :: v)) rest
    else none
  | .quote n, c :: rest =>
    if isQuotedChar c then parametersFrom? (.quoted n [c]) rest else none
  | .quoted n v, c :: rest =>
    if c = '"' then parametersFrom? (.unquoted n v) rest
    else if isQuotedChar c then parametersFrom? (.quoted n (c :: v)) rest
    else none
  | .unquoted n v, c :: rest =>
    if c = ';' then ((n.reverse, v.reverse) :: ·) <$> parametersFrom? .start rest
    else if c = ' ' then parametersFrom? (.unquoted n v) rest
    else none

/-- A subtype and what follows its last plus sign. -/
def splitSuffix (cs : List Char) : List Char × Option (List Char) :=
  match cs.reverse.dropWhile (· != '+') with
  | [] | [_] => (cs, none)
  | _ :: before => (before.reverse, some (cs.reverse.takeWhile (· != '+')).reverse)

namespace MediaType

/-- The media type that a text is, in lower case. -/
def parse? (s : String) : Option MediaType :=
  let cs := s.toLower.toList
  let type := cs.takeWhile isTokenChar
  match cs.dropWhile isTokenChar with
  | '/' :: cs =>
    let (subtype, suffix?) := splitSuffix (cs.takeWhile isTokenChar)
    let parameters? :=
      match cs.dropWhile isTokenChar with
      | [] => some []
      | ';' :: rest => if subtype.isEmpty then none else parametersFrom? .start rest
      | _ => none
    if type.isEmpty then none else parameters?.map (⟨type, subtype, suffix?, ·⟩)
  | _ => none

/-- The value of the first parameter of a name. -/
def parameter? (m : MediaType) (name : String) : Option String :=
  (m.parameters.lookup name.toList).map String.ofList

/-- Whether a media type is the one of JSON or is built on it. -/
def isJson (m : MediaType) : Bool :=
  m.type == "application".toList &&
    (m.subtype == "json".toList || m.suffix? == some "json".toList)

end MediaType

/-- Whether the value of a header can be read as text. -/
def isVisible (s : String) : Bool :=
  s.toList.all fun c => c = '\t' || (32 ≤ c.toNat && c.toNat < 127)

/-- Whether the value of a header names the type of JSON. -/
def isJsonType (value : String) : Bool :=
  isVisible value && (MediaType.parse? value).any MediaType.isJson

/-- The character set that the value of a header names, in lower case. -/
def charset? (value : String) : Option String :=
  if isVisible value then do (← MediaType.parse? value).parameter? "charset" else none

end CacheCluster.Http
