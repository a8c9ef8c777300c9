namespace Disburse.Api.MediaType

/-- Characters of which the parts of a media type consist. -/
def isToken (c : Char) : Bool :=
  c.isAlphanum || "!#$%&'*+-.^_|~`".toList.contains c

/-- What follows a quoted value: its text goes at least one character far, and has no control
characters. -/
def afterQuoted : List Char → Option (List Char)
  | [] => none
  | c :: rest =>
    if (c :: rest.takeWhile (· ≠ '"')).all (' ' ≤ ·) then (rest.dropWhile (· ≠ '"')).tail?
    else none

/-- Whether a text is a row of parameters, behind the semicolon. Every parameter takes at least
one character, so the length of the text is enough `fuel`. -/
def areParameters : (fuel : Nat) → List Char → Bool
  | 0, cs => cs.isEmpty
  | fuel + 1, cs =>
    match cs.dropWhile (· = ' ') with
    | [] => true
    | cs =>
      match cs.takeWhile isToken, cs.dropWhile isToken with
      | _ :: _, '=' :: '"' :: rest =>
        match (afterQuoted rest).map (·.dropWhile (· = ' ')) with
        | some [] => true
        | some (';' :: rest) => areParameters fuel rest
        | _ => false
      | _ :: _, '=' :: value =>
        match value.takeWhile isToken, value.dropWhile isToken with
        | _, [] => true
        | _ :: _, ';' :: rest => areParameters fuel rest
        | _, _ => false
      | _, _ => false

/-- A subtype without its suffix, and the suffix. No suffix stands behind a plus sign in front. -/
def splitSuffix (subtype : List Char) : List Char × Option (List Char) :=
  let suffix := (subtype.reverse.takeWhile (· ≠ '+')).reverse
  let stem := subtype.take (subtype.length - suffix.length - 1)
  if stem.isEmpty then (subtype, none) else (stem, some suffix)

def isVisible (c : Char) : Bool :=
  c = '\t' || ' ' ≤ c && c ≤ '~'

/-- Whether a media type is JSON, by its subtype or by the suffix of that. -/
def isJson (contentType : String) : Bool :=
  let cs := contentType.toLower.toList
  let essence := cs.takeWhile (· ≠ ';')
  let parameters := (cs.dropWhile (· ≠ ';')).drop 1
  match essence.splitOn '/' with
  | [kind, subtype] =>
    let (stem, suffix) := splitSuffix subtype
    cs.all isVisible && kind == "application".toList && subtype.all isToken &&
      (stem == "json".toList || suffix == some "json".toList) &&
      areParameters (parameters.length + 1) parameters
  | _ => false

end Disburse.Api.MediaType
