/-
Request methods: any name that a message may hold, upper and lower case being different.
-/
namespace SinglePage

/-- The method of a request. -/
structure Method where
  name : String
  deriving DecidableEq, Repr

namespace Method

/-- The method that asks for a response. -/
def get : Method := ⟨"GET"⟩

/-- The method that asks for a response without its body. -/
def head : Method := ⟨"HEAD"⟩

/-- Characters of names. -/
def isNameChar (c : Char) : Bool := c.isAlphanum || "!#$%&'*+-.^_\x60|~".toList.contains c

/-- The method of a name, if it can be one. -/
def parse? (name : String) : Option Method :=
  if name ≠ "" ∧ name.toList.all isNameChar then some ⟨name⟩ else none

end Method

end SinglePage
