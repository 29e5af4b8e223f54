import UtxoWallet.Text.Blank

/-! # The address of a node

A node is given by its host, as in localhost:8080, or by a URL. Slashes at the end are dropped, and
a missing scheme is added.
-/

namespace UtxoWallet.Node

inductive UrlFault where
  | empty
  /-- What is left after trimming, with a blank in it. -/
  | hasBlank (text : String)
deriving DecidableEq, Repr

def UrlFault.message : UrlFault → String
  | .empty => "node address is empty"
  | .hasBlank text => text

def contains (part : List Char) : List Char → Bool
  | [] => part.isEmpty
  | c :: cs => part.isPrefixOf (c :: cs) || contains part cs

def schemeMark : List Char := "://".toList

def defaultScheme : List Char := "http://".toList

/-- Blanks go before slashes do: a blank before the last slashes stays. -/
def bareUrl (node : List Char) : List Char :=
  Text.dropTrailing (· = '/') (Text.trimBlanks node)

def normalUrl (node : String) : Except UrlFault String :=
  let bare := bareUrl node.toList
  if bare.isEmpty then .error .empty
  else if bare.any Text.isBlank then .error (.hasBlank (String.ofList bare))
  else if contains schemeMark bare then .ok (String.ofList bare)
  else .ok (String.ofList (defaultScheme ++ bare))

end UtxoWallet.Node
