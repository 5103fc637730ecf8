import DepthRules.Yaml.Timestamp

/-!
# Types of nodes

A tag names the type of a node. A plain scalar without a tag has the type its text looks like, and
every other scalar without one is a text.
-/

namespace DepthRules.Yaml

/-- The types a node can have. A merge key and a value key have their meaning inside mappings. -/
inductive Tag where
  | null
  | bool
  | int
  | float
  | binary
  | timestamp
  | str
  | merge
  | value
  | seq
  | map
  | set
  | omap
  | pairs
  | unknown
  deriving DecidableEq, Repr

/-- What the tags of all types start with. -/
def standardStart : String := "tag:yaml.org,2002:"

/-- The types that have a tag, each with the end of it. -/
def standardTags : List (String × Tag) :=
  [("null", .null), ("bool", .bool), ("int", .int), ("float", .float), ("binary", .binary),
    ("timestamp", .timestamp), ("str", .str), ("merge", .merge), ("value", .value), ("seq", .seq),
    ("map", .map), ("set", .set), ("omap", .omap), ("pairs", .pairs)]

/-- The type a tag names. -/
def Tag.ofName (name : String) : Tag :=
  match standardTags.find? fun t => standardStart ++ t.1 == name with
  | some (_, tag) => tag
  | none => .unknown

/-- A word, the same with a capital, and the same in capitals. -/
def isWord (word : String) (cs : List Char) : Bool :=
  let w := word.toList
  cs == w || cs == w.map Char.toUpper ||
    cs == (match w with
      | [] => []
      | c :: rest => c.toUpper :: rest)

/-- The words that are truth values. -/
def isTruthWord (cs : List Char) : Bool :=
  ["yes", "no", "true", "false", "on", "off"].any fun word => isWord word cs

/-- Digits and underscores. -/
def isDigitOrGap (c : Char) : Bool := c.isDigit || c == '_'

/-- The text after an optional sign. -/
def afterSign : List Char → List Char
  | '-' :: rest => rest
  | '+' :: rest => rest
  | cs => cs

/-- Whether a text is places in base sixty, each after a colon: one digit, or two of which the first
is below six. There must be one place unless `none` is allowed. -/
def isPlaces : Bool → List Char → Bool
  | noneAllowed, [] => noneAllowed
  | _, ':' :: a :: b :: rest =>
      if a.isDigit && b.isDigit then a ≤ '5' && isPlaces true rest
      else a.isDigit && isPlaces true (b :: rest)
  | _, [':', a] => a.isDigit
  | _, _ => false

/-- Whether a text looks like an integer. -/
def isInteger (cs : List Char) : Bool :=
  match afterSign cs with
  | ['0'] => true
  | '0' :: 'b' :: rest => !rest.isEmpty && rest.all fun c => c == '0' || c == '1' || c == '_'
  | '0' :: 'x' :: rest =>
      !rest.isEmpty &&
        rest.all fun c => c.isDigit || c == '_' || ('a' ≤ c.toLower && c.toLower ≤ 'f')
  | '0' :: rest => rest.all fun c => ('0' ≤ c && c ≤ '7') || c == '_'
  | c :: rest =>
      c.isDigit &&
        match rest.dropWhile isDigitOrGap with
        | [] => true
        | places => isPlaces false places
  | [] => false

/-- Whether a text is an optional exponent with a sign. -/
def isExponent (cs : List Char) : Bool :=
  match cs with
  | [] => true
  | e :: sign :: digits =>
      (e == 'e' || e == 'E') && (sign == '-' || sign == '+') && !digits.isEmpty &&
        digits.all Char.isDigit
  | _ => false

/-- Whether a text that begins with a digit is a number with a point: in base ten, with an optional
exponent, or in base sixty. -/
def isFraction (cs : List Char) : Bool :=
  match cs.dropWhile isDigitOrGap with
  | '.' :: rest => isExponent (rest.dropWhile isDigitOrGap)
  | rest =>
      let places := rest.takeWhile (· != '.')
      match rest.dropWhile (· != '.') with
      | _ :: fraction => isPlaces false places && fraction.all isDigitOrGap
      | [] => false

/-- Whether a text looks like a number with a point. -/
def isFloat (cs : List Char) : Bool :=
  match cs with
  | '.' :: c :: rest =>
      if c.isDigit then isExponent (rest.dropWhile isDigitOrGap)
      else isWord "inf" (c :: rest) || ["nan", "NaN", "NAN"].contains (String.ofList (c :: rest))
  | cs =>
      match afterSign cs with
      | '.' :: rest => isWord "inf" rest
      | c :: rest => c.isDigit && isFraction (c :: rest)
      | [] => false

/-- The type a text looks like, if it is not just a text. -/
def looksLike? (cs : List Char) : Option Tag :=
  if isTruthWord cs then some .bool
  else if isFloat cs then some .float
  else if isInteger cs then some .int
  else if cs == ['<', '<'] then some .merge
  else if cs.isEmpty || cs == ['~'] || isWord "null" cs then some .null
  else if isTimestamp cs then some .timestamp
  else if cs == ['='] then some .value
  else if cs == ['!'] || cs == ['&'] || cs == ['*'] then some .unknown
  else none

/-- The text without a line feed at its end. -/
def dropLineFeed (cs : List Char) : List Char :=
  if cs.getLast? = some '\n' then cs.dropLast else cs

/-- The type of a plain scalar without a tag. A line feed at the end of the text does not count,
unless it is all of it. -/
def Tag.ofPlain (cs : List Char) : Tag :=
  if cs == ['\n'] then .str else (looksLike? (dropLineFeed cs)).getD .str

end DepthRules.Yaml
