import ClusterDns.Url.Parser

/-! References: URLs told from the place of another one. -/

namespace ClusterDns.Url

/-- The segments a relative path starts from: those of the place without its last name. -/
def folder : Path → List String
  | .segments list => list.dropLast
  | .text _ => []

/-- Reads a reference without a scheme from a URL with a special one. -/
def relative (base : Url) (s : List Char) : Except ParseError Url :=
  let bare := base.withoutFragment
  let path := s.takeWhile (!isTail ·)
  let tail := s.dropWhile (!isTail ·)
  match path with
  | [] =>
    let read := withTail bare tail
    .ok (if tail.head? == some '?' then read else { read with query? := base.query? })
  | a :: rest =>
    if isSlash true a then
      if rest.head?.any (isSlash true) then
        afterSlashes base.scheme (s.dropWhile (isSlash true))
      else .ok (withTail { bare with path := .segments (pathFrom base.scheme [] rest) } tail)
    else
      .ok (withTail
        { bare with path := .segments (pathFrom base.scheme (folder base.path) path) } tail)

/-- Reads a reference from a URL with a special scheme. A reference that repeats the scheme but has
not two slashes is relative all the same. -/
def resolve (base : Url) (reference : String) : Except ParseError Url :=
  let s := trimmed reference.toList
  match scheme? s with
  | none => relative base s
  | some (scheme, rest) =>
    if scheme = base.scheme && (rest.takeWhile (isSlash true)).length < 2 then relative base rest
    else parseAfterScheme scheme rest

end ClusterDns.Url
