import ClusterDns.Text.Blank

/-! Comma-separated lists, the form in which a list of hostnames is kept in one annotation. Reading
is tolerant: blanks around an element do not count, and neither do empty elements. Writing puts
one comma between the elements and nothing else. -/

namespace ClusterDns.Text.CommaList

def parse (s : String) : List String :=
  (((splitOn (· == ',') s.toList).map trim).filter (!·.isEmpty)).map String.ofList

def render (elements : List String) : String := ",".intercalate elements

end ClusterDns.Text.CommaList
