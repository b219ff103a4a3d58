import ClusterDns.Text.Blank

/-! Local DNS records: one name bound to one address. The server keeps each as a line of text, the
address first; a line may hold further names, which are not records. -/

namespace ClusterDns.PiHole

structure Record where
  domain : String
  address : String
  deriving DecidableEq

namespace Record

def toEntry (record : Record) : String := record.address ++ " " ++ record.domain

def ofEntry? (entry : String) : Option Record :=
  match Text.fields entry.toList with
  | address :: domain :: _ => some ⟨String.ofList domain, String.ofList address⟩
  | _ => none

end Record

end ClusterDns.PiHole
