import UtxoWallet.Url.Domain
import UtxoWallet.Url.Ipv4
import UtxoWallet.Url.Ipv6
import UtxoWallet.Url.Percent

/-! # Hosts -/

namespace UtxoWallet.Url

inductive Host where
  | domain (name : String)
  | ipv4 (address : Ipv4)
  | ipv6 (address : Ipv6)
deriving DecidableEq, Repr

namespace Host

def text : Host → String
  | domain name => name
  | ipv4 address => address.text
  | ipv6 address => s!"[{address.text}]"

/-- An address in brackets. The first bracket is there. -/
def ofBrackets? (cs : List Char) : Option Host := do
  guard (cs.getLast? = some ']')
  return ipv6 (← Ipv6.ofText? cs.tail.dropLast)

def ofText? (cs : List Char) : Option Host :=
  if cs.head? = some '[' then ofBrackets? cs
  else do
    let name ← Domain.ofText? (← Percent.decodeText? cs).toList
    guard !name.isEmpty
    if Ipv4.isMeant name then return ipv4 (← Ipv4.ofText? name)
    else return domain (String.ofList name)

/-- A host of which nothing is known but that it is one. -/
def ofOpaque? (cs : List Char) : Option Host :=
  if cs.head? = some '[' then ofBrackets? cs
  else do
    guard !cs.any ("\x00\t\n\r #/:<>?@[\\]^|".toList.contains ·)
    return domain (String.ofList (Percent.encode [] cs))

end Host

end UtxoWallet.Url
