import ClusterDns.Url.Host

/-! Reading URLs. Blanks and controls around a URL do not count, nor do tabs and line ends inside
it; with a special scheme a backslash is as good as a slash. -/

namespace ClusterDns.Url

def isSlash (isSpecial : Bool) (c : Char) : Bool := c == '/' || (isSpecial && c == '\\')

/-- Characters that end the part with the host. -/
def endsAuthority (isSpecial : Bool) (c : Char) : Bool :=
  isSlash isSpecial c || c == '?' || c == '#'

/-- What counts of a text that holds a URL. -/
def trimmed (s : List Char) : List Char :=
  let isOuter (c : Char) : Bool := c.toNat ≤ 0x20
  visible ((s.dropWhile isOuter).reverse.dropWhile isOuter).reverse

def isSchemeChar (c : Char) : Bool := c.isAlphanum || c == '+' || c == '-' || c == '.'

/-- The scheme, in small letters, and what follows its colon. -/
def scheme? (s : List Char) : Option (String × List Char) :=
  match s.dropWhile isSchemeChar with
  | ':' :: rest =>
    if s.head?.any Char.isAlpha then
      some (String.ofList ((s.takeWhile isSchemeChar).map Char.toLower), rest)
    else none
  | _ => none

/-- Name and password, cut at the first colon. An empty password is none. -/
def credentials (s : List Char) : String × Option String :=
  match Text.cutAt (· == ':') s with
  | (name, some (c :: password)) =>
    (Percent.encode Percent.userinfo name, some (Percent.encode Percent.userinfo (c :: password)))
  | (name, _) => (Percent.encode Percent.userinfo name, none)

/-- The text before the last at sign, and what follows it. -/
def cutUserinfo (isSpecial : Bool) (s : List Char) : Option (List Char) × List Char :=
  let authority := s.takeWhile (!endsAuthority isSpecial ·)
  let host := (authority.reverse.takeWhile (· != '@')).reverse
  if host.length < authority.length then
    let userinfo := authority.take (authority.length - host.length - 1)
    (some userinfo, s.drop (userinfo.length + 1))
  else (none, s)

/-- The text of the host: up to the port or the end, but brackets may hold colons. -/
def cutHost (isSpecial inBrackets : Bool) : List Char → List Char × List Char
  | [] => ([], [])
  | c :: rest =>
    if endsAuthority isSpecial c || (c == ':' && !inBrackets) then ([], c :: rest)
    else
      let inBrackets := if c == '[' then true else if c == ']' then false else inBrackets
      let (host, rest) := cutHost isSpecial inBrackets rest
      (c :: host, rest)

/-- A port after its colon. A port that is the default or missing is none. -/
def cutPort (scheme : String) (s : List Char) : Except ParseError (Option Nat × List Char) :=
  match s with
  | ':' :: s =>
    let digits := s.takeWhile Text.isDigit
    let rest := s.dropWhile Text.isDigit
    let isEnd := match rest with
      | [] => true
      | c :: _ => endsAuthority true c
    match (if digits.isEmpty then some 0 else Text.decimal? digits) with
    | none => .error .invalidPort
    | some port =>
      if !isEnd || 65535 < port then .error .invalidPort
      else
        .ok (if digits.isEmpty || defaultPort? scheme == some port then none else some port, rest)
  | s => .ok (none, s)

/-- Segments that mean the place itself and the one above, in all their spellings. -/
def isDot (piece : List Char) : Bool :=
  piece == ['.'] || piece.map Char.toLower == "%2e".toList

def isDoubleDot (piece : List Char) : Bool :=
  let small := piece.map Char.toLower
  small == "..".toList || small == ".%2e".toList || small == "%2e.".toList
    || small == "%2e%2e".toList

/-- A letter and a colon, or a bar in its place: a drive in a file's path. -/
def isDrive : List Char → Bool
  | [letter, c] => letter.isAlpha && (c == ':' || c == '|')
  | _ => false

def addSegment (isFile : Bool) (done : List String) (piece : List Char) : List String :=
  match isFile && done.isEmpty && isDrive piece, piece with
  | true, letter :: _ => [String.ofList [letter, ':']]
  | _, _ => done ++ [Percent.encode Percent.path piece]

def dropSegment (isFile : Bool) : List String → List String
  | [only] => if isFile && isDrive only.toList then [only] else []
  | done => done.dropLast

/-- Follows the pieces of a path. A path that ends at a place and not at a name ends in a slash. -/
def follow (isFile : Bool) : List String → List (List Char) → List String
  | done, [] => done
  | done, piece :: rest =>
    let done :=
      if isDoubleDot piece then dropSegment isFile done ++ if rest.isEmpty then [""] else []
      else if isDot piece then done ++ if rest.isEmpty then [""] else []
      else addSegment isFile done piece
    follow isFile done rest

def dropSlash (isSpecial : Bool) : List Char → List Char
  | c :: rest => if isSlash isSpecial c then rest else c :: rest
  | [] => []

/-- The path a text leads to from some segments. -/
def pathFrom (scheme : String) (start : List String) (s : List Char) : List String :=
  follow (scheme = "file") start (Text.splitOn (isSlash (isSpecialScheme scheme)) s)

/-- A path behind a host, or behind the scheme of a file. Other than special schemes may have no
path. -/
def pathAfterHost (scheme : String) (s : List Char) : List String :=
  let special := isSpecialScheme scheme
  if s.isEmpty && !special then [] else pathFrom scheme [] (dropSlash special s)

/-- Query and fragment, for a URL that has neither so far. -/
def withTail (url : Url) (s : List Char) : Url :=
  let (front, fragment) := Text.cutAt (· == '#') s
  let set := if url.isSpecial then Percent.specialQuery else Percent.query
  { url with
    query? := match front with
      | '?' :: query => some (Percent.encode set query)
      | _ => none
    fragment? := fragment.map (Percent.encode Percent.fragment) }

def isTail (c : Char) : Bool := c == '?' || c == '#'

/-- Reads what follows the two slashes. -/
def afterSlashes (scheme : String) (s : List Char) : Except ParseError Url := do
  let special := isSpecialScheme scheme
  let (userinfo, s) := cutUserinfo special s
  let (username, password) := credentials (userinfo.getD [])
  let (hostText, rest) := cutHost special false s
  if hostText.isEmpty
      && (special || rest.head? == some ':' || username ≠ "" || password.isSome
        || (userinfo == some [] && !rest.isEmpty)) then
    throw .emptyHost
  let host ← Host.parse special hostText
  let (port, rest) ← cutPort scheme rest
  let path := pathAfterHost scheme (rest.takeWhile (!isTail ·))
  return withTail
    { scheme, username, password? := password, host? := some host, port? := port,
      path := .segments path }
    (rest.dropWhile (!isTail ·))

/-- A file's path starts with one slash, and a drive takes the place of the host. -/
def filePath (host : Host) (s : List Char) : Url :=
  let list := (pathAfterHost "file" (s.takeWhile (!isTail ·))).dropWhile (· = "")
  let list := if list.isEmpty then [""] else list
  let host := match list with
    | first :: _ => if isDrive first.toList then .name "" else host
    | [] => host
  withTail { scheme := "file", host? := some host, path := .segments list }
    (s.dropWhile (!isTail ·))

def parseFile (s : List Char) : Except ParseError Url :=
  match s with
  | a :: b :: rest =>
    if isSlash true a && isSlash true b then
      let hostText := rest.takeWhile (!endsAuthority true ·)
      let behind := rest.dropWhile (!endsAuthority true ·)
      if isDrive hostText then .ok (filePath (.name "") rest)
      else if hostText.isEmpty then .ok (filePath (.name "") behind)
      else
        (Host.parse true hostText).map fun
          | .name "localhost" => filePath (.name "") behind
          | host => filePath host behind
    else .ok (filePath (.name "") s)
  | s => .ok (filePath (.name "") s)

/-- Reads what follows the colon of a scheme that is not special. -/
def parseOther (scheme : String) (s : List Char) : Except ParseError Url :=
  match s with
  | '/' :: '/' :: rest => afterSlashes scheme rest
  | s =>
    let path := s.takeWhile (!isTail ·)
    let path := match path with
      | '/' :: rest => .segments (pathFrom scheme [] rest)
      | _ => .text (Percent.encode Percent.controls path)
    .ok (withTail { scheme, path } (s.dropWhile (!isTail ·)))

/-- Reads what follows the colon of a scheme. With a special one, any number of slashes will do. -/
def parseAfterScheme (scheme : String) (s : List Char) : Except ParseError Url :=
  if scheme = "file" then parseFile s
  else if isSpecialScheme scheme then afterSlashes scheme (s.dropWhile (isSlash true))
  else parseOther scheme s

def parse (s : String) : Except ParseError Url :=
  match scheme? (trimmed s.toList) with
  | some (scheme, rest) => parseAfterScheme scheme rest
  | none => .error .noBase

/-- Whether paths can be built on a URL. -/
def isBase (url : Url) : Bool :=
  match url.path with
  | .segments _ => true
  | .text _ => false

end ClusterDns.Url
