import ElasticGroups.Text.Shape

/-!
# Join commands

The shape of a command that joins a node to a cluster: the address of the cluster, a token, and
the hash of a certificate, in this order, with blanks between the words.

## Main definitions

* `joinCommandShape`: the shape;
* `isJoinCommand`: the whole text is such a command.
-/

namespace ElasticGroups.Boot

open Text

/-- The characters of a host: digits and dots. -/
def isHostChar (c : Char) : Bool := c.isDigit || c = '.'

/-- The characters of a token: lower-case letters and digits. -/
def isTokenChar (c : Char) : Bool := c.isLower || c.isDigit

/-- The characters of a hash: lower-case hexadecimal digits. -/
def isHashChar (c : Char) : Bool := c.isDigit || ('a' ≤ c && c ≤ 'f')

/-- The space between words. -/
def isSpace (c : Char) : Bool := c = ' '

/-- The shape of a join command. -/
def joinCommandShape : Shape :=
  [.word "kubeadm", .run isSpace, .word "join", .run isSpace,
   .run isHostChar, .word ":", .run Char.isDigit, .run isSpace,
   .word "--token", .run isSpace, .exactly 6 isTokenChar, .word ".", .exactly 16 isTokenChar,
   .run isSpace, .word "--discovery-token-ca-cert-hash", .run isSpace,
   .word "sha256:", .run isHashChar]

/-- The whole text is a join command. -/
def isJoinCommand (s : String) : Bool := joinCommandShape.accepts s

end ElasticGroups.Boot
