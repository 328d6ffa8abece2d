import ResourceQuery.Digest.Sha256
import ResourceQuery.Json.Printer
import ResourceQuery.Query.Encoding

namespace ResourceQuery

def Layer.canonical (l : Layer) : String :=
  l.toJson.compact

/-- SHA-256 of the canonical text in UTF-8, in hexadecimal digits. -/
def Layer.fingerprint (l : Layer) : String :=
  Digest.hex (Digest.sha256 l.canonical.toUTF8.toList)

end ResourceQuery
