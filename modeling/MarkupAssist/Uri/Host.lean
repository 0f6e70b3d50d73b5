import MarkupAssist.Domain.Name
import MarkupAssist.Uri.NumericHost

/-!
# Hosts

The host of an address. With a scheme that is hierarchical by itself it is a domain name or a number
(`namedHost?`); with any other scheme it is kept as it is given (`plainHost?`). In brackets it is a
number in both cases.
-/

namespace MarkupAssist.Uri

/-- A host in brackets. -/
def bracketHost? (host : List Char) : Option (List Char) := do
  if host.getLast? == some ']' then
    let groups ← ipv6? (host.drop 1).dropLast
    some ('[' :: ipv6Text groups ++ [']'])
  else none

/-- A host that is a domain name, unless its last part is a number. -/
def namedHost? (host : List Char) : Option (List Char) := do
  if host.head? == some '[' then bracketHost? host
  else
    let name ← ofUtf8? (decode host) >>= Domain.ascii?
    if name.isEmpty then none
    else if endsInNumber name then (ipv4? name).map ipv4Text
    else some name

/-- The characters that no host has. -/
def hostForbidden : List Char :=
  ['\x00', '\t', '\n', '\r', ' ', '#', '/', ':', '<', '>', '?', '@', '[', '\\', ']', '^', '|']

/-- A host that is kept as it is given. It may be empty. -/
def plainHost? (host : List Char) : Option (List Char) :=
  if host.head? == some '[' then bracketHost? host
  else if host.any hostForbidden.contains then none
  else some (encode [] host)

end MarkupAssist.Uri
